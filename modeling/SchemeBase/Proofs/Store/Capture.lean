import SchemeBase.Proofs.Store.Outward

/-! # All visible bindings

The bindings that an environment shows can be collected in one go: frame by frame from the inside out,
keeping for each symbol the value that is met first. A frame has its bindings in no order, so within a
frame they may be met in any order. Whatever the order is, the collection has for every symbol the
value that a lookup of this symbol ends at, although the lookup stops at the first frame that binds it
and the collection goes on to the outermost one.
-/

namespace SchemeBase.Store

variable {store : Store} {e f : FrameId} {symbol : Symbol}

/-- An order in which the bindings of each frame are met. -/
structure Listing (store : Store) where
  entries : FrameId → List (Symbol × Value)
  perm : ∀ f, (entries f).Perm (store.frame f).bindings.toList

/-- Keeps a binding unless its symbol has a value already. -/
def keepFirst (found : Std.TreeMap Symbol Value) (entry : Symbol × Value) :
    Std.TreeMap Symbol Value :=
  found.insertIfNew entry.1 entry.2

/-- Collects the bindings of a frame, one after another. -/
def Listing.collecting (listing : store.Listing) (f : FrameId) (found : Std.TreeMap Symbol Value) :
    ForInStep (Std.TreeMap Symbol Value) :=
  .yield ((listing.entries f).foldl keepFirst found)

/-- A collection keeps the values that it has, and otherwise the first that it meets. -/
theorem getElem?_foldl_keepFirst (entries : List (Symbol × Value))
    (found : Std.TreeMap Symbol Value) (symbol : Symbol) :
    (entries.foldl keepFirst found)[symbol]? = found[symbol]?.or (entries.lookup symbol) := by
  induction entries generalizing found with
  | nil => exact (Option.or_none ..).symm
  | cons entry entries ih =>
    rw [List.foldl_cons, ih, keepFirst, Std.TreeMap.getElem?_insertIfNew, List.lookup_cons]
    simp only [Std.LawfulEqOrd.compare_eq_iff_eq, Std.TreeMap.mem_iff_isSome_getElem?]
    by_cases same : entry.1 = symbol
    · subst same
      cases found[entry.1]? <;> simp
    · have apart : (symbol == entry.1) = false := beq_eq_false_iff_ne.mpr (Ne.symm same)
      rw [if_neg (same ·.1), apart]

namespace Listing

variable (listing : store.Listing)

theorem mem_entries_iff {value : Value} :
    (symbol, value) ∈ listing.entries f ↔ store.local? f symbol = some value := by
  rw [(listing.perm f).mem_iff, Std.TreeMap.mem_toList_iff_getElem?_eq_some, local?]

/-- In every order a symbol has the value that its frame gives it. -/
theorem lookup_entries (f : FrameId) (symbol : Symbol) :
    (listing.entries f).lookup symbol = store.local? f symbol := by
  cases found : (listing.entries f).lookup symbol with
  | some value =>
    obtain ⟨before, after, split, _⟩ := List.lookup_eq_some_iff.mp found
    have member : (symbol, value) ∈ listing.entries f :=
      split ▸ List.mem_append_right before List.mem_cons_self
    exact (listing.mem_entries_iff.mp member).symm
  | none =>
    cases bound : store.local? f symbol with
    | none => rfl
    | some value =>
      have apart := List.lookup_eq_none_iff.mp found _ (listing.mem_entries_iff.mpr bound)
      simp at apart

theorem getElem?_forIn_collecting (frames : List FrameId) (found : Std.TreeMap Symbol Value)
    (symbol : Symbol) :
    (forIn frames found listing.collecting : Id (Std.TreeMap Symbol Value)).run[symbol]? =
      found[symbol]?.or (frames.findSome? (store.local? · symbol)) := by
  induction frames generalizing found with
  | nil => exact (Option.or_none ..).symm
  | cons f frames ih =>
    rw [List.forIn_cons, List.findSome?_cons]
    refine (ih ((listing.entries f).foldl keepFirst found)).trans ?_
    rw [getElem?_foldl_keepFirst, lookup_entries, Option.or_assoc]
    congr 1
    cases store.local? f symbol <;> rfl

/-! ### The symbols of one frame -/

/-- The symbols that a frame binds, in the order in which they are met. -/
def symbols (f : FrameId) : List Symbol :=
  (listing.entries f).map Prod.fst

theorem symbols_perm (f : FrameId) : (listing.symbols f).Perm (store.localSymbols f) := by
  rw [localSymbols, ← Std.TreeMap.map_fst_toList_eq_keys]
  exact (listing.perm f).map Prod.fst

theorem nodup_symbols (f : FrameId) : (listing.symbols f).Nodup :=
  (listing.symbols_perm f).nodup_iff.mpr Std.TreeMap.nodup_keys

theorem mem_symbols_iff : symbol ∈ listing.symbols f ↔ store.isBoundLocally f symbol = true := by
  rw [(listing.symbols_perm f).mem_iff, localSymbols, Std.TreeMap.mem_keys]
  rfl

theorem length_symbols (f : FrameId) : (listing.symbols f).length = store.localSize f := by
  rw [(listing.symbols_perm f).length_eq, localSymbols, Std.TreeMap.length_keys, localSize]

end Listing

/-! ## Collections and lookups -/

/-- A collection has just the bindings that lookups in an environment find. -/
structure Shows (store : Store) (e : FrameId) (found : Std.TreeMap Symbol Value) : Prop where
  value : ∀ symbol value, found[symbol]? = some value ↔ store.lookup e symbol = .ok value
  bound : ∀ symbol, symbol ∈ found ↔ store.isBound e symbol = true
  missing : ∀ symbol, symbol ∉ found ↔ store.lookup e symbol = .error (store.unbound e symbol)

theorem shows_of_getElem? {found : Std.TreeMap Symbol Value}
    (same : ∀ symbol, found[symbol]? = store.lookup? e symbol) : store.Shows e found where
  value symbol value := by
    rw [same, lookup]
    cases store.lookup? e symbol <;> simp
  bound symbol := by
    rw [← Std.TreeMap.isSome_getElem?_iff_mem, same, isBound]
  missing symbol := by
    rw [← Std.TreeMap.isSome_getElem?_iff_mem, same, lookup]
    cases store.lookup? e symbol <;> simp

/-- In whatever order the bindings of the frames are met, collecting them all ends, and gives each
symbol the value at which a lookup of it ends. A symbol without a value is one whose lookup fails. In a
global environment just the bindings of its frame are collected. The symbols of a frame are met once
each, and their number is the size of the frame. -/
theorem Reachable.collected (reachable : store.Reachable) (listing : store.Listing) (e : FrameId) :
    (∃ found, found.Equiv (store.capture e) ∧ store.Shows e found ∧
      (∀ limit, store.depth e ≤ limit →
        store.outward listing.collecting limit e {} = some found ∧
        ∀ symbol, store.outward (store.seekingValue symbol) limit e none = some found[symbol]?) ∧
      (store.isGlobal e = true → found.Equiv (store.frame e).bindings)) ∧
    (listing.symbols e).Nodup ∧ (listing.symbols e).Perm (store.localSymbols e) ∧
    (∀ symbol, symbol ∈ listing.symbols e ↔ store.isBoundLocally e symbol = true) ∧
    (listing.symbols e).length = store.localSize e := by
  have valid := reachable.wellFormed
  refine ⟨?_, listing.nodup_symbols e, listing.symbols_perm e, fun symbol => listing.mem_symbols_iff,
    listing.length_symbols e⟩
  let found := (forIn (store.chain e) {} listing.collecting : Id (Std.TreeMap Symbol Value)).run
  have read (symbol : Symbol) : found[symbol]? = store.lookup? e symbol :=
    listing.getElem?_forIn_collecting (store.chain e) {} symbol
  refine ⟨found, .of_forall_constGet?_eq fun symbol => ?_, shows_of_getElem? read,
    fun limit enough => ⟨valid.outward_eq _ enough {}, fun symbol => ?_⟩,
    fun top => .of_forall_constGet?_eq fun symbol => ?_⟩
  · exact (read symbol).trans (getElem?_capture store e symbol).symm
  · rw [(valid.endsOutward e).lookup symbol limit enough, read]
  · refine (read symbol).trans ?_
    rw [lookup?, chain_of_outermost (Option.isNone_iff_eq_none.mp top), List.findSome?_singleton]
    rfl

/-- Inside the top level a frame gives one of two symbols another value. Each frame is gone through
from its last binding to its first. -/
theorem collected_shadowed :
    let x : Symbol := .ofParts 0 1 2
    let y : Symbol := .ofParts 0 1 3
    let nested := (child 0 (createGlobal {}).2).2
    let store := ((nested.define 0 x (.integer 1)).define 0 y (.integer 2)).define 1 x (.integer 3)
    let backwards : store.Listing :=
      ⟨fun f => (store.frame f).bindings.toList.reverse, fun _ => List.reverse_perm _⟩
    store.Reachable ∧ backwards.symbols 0 = [y, x] ∧
      (∃ found, store.outward backwards.collecting 2 1 {} = some found ∧
        found[x]? = some (.integer 3) ∧ found[y]? = some (.integer 2)) ∧
      ∃ found, store.outward backwards.collecting 1 0 {} = some found ∧
        found.Equiv (store.frame 0).bindings := by
  intro x y nested store backwards
  have top : (createGlobal {}).2.Reachable := Reachable.createGlobal .refl
  have inside : nested.Reachable := top.tail (.child (by decide))
  have reachable : store.Reachable :=
    ((inside.tail (.define (by decide) x _)).tail (.define (by decide) y _)).tail
      (.define (by decide) x _)
  have found (symbol : Symbol) : store.lookup? 1 symbol =
      [1, 0].findSome? (store.local? · symbol) := by
    rw [lookup?, show store.chain 1 = [1, 0] by decide +kernel]
  obtain ⟨inner, _, shown, ends, _⟩ := (reachable.collected backwards 1).1
  obtain ⟨outside, _, _, endsOutside, alone⟩ := (reachable.collected backwards 0).1
  refine ⟨reachable, rfl, ⟨inner, (ends 2 (by decide +kernel)).1, ?_, ?_⟩, outside,
    (endsOutside 1 (by decide +kernel)).1, alone rfl⟩
  · exact (shown.value x _).mpr (by rw [lookup, found]; rfl)
  · exact (shown.value y _).mpr (by rw [lookup, found]; rfl)

end SchemeBase.Store
