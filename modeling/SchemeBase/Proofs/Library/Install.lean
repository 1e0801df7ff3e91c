import SchemeBase.Proofs.Bootstrap.Effect
import SchemeBase.Proofs.Symbol.Capacity

/-! # What a library leaves

A library is installed entry by entry, so the last entry of a name decides its value, whatever the name
was bound to. This is unlike a bootstrap, which keeps the first. The table gains the names that it
lacked, nothing else in the store changes, and the same library once more leaves everything as it
is. That no shard overflows is all that is asked of the table.
-/

namespace SchemeBase

/-! ## What the table gains -/

namespace SymbolTable

variable {table last : SymbolTable} {log : List (String × Symbol)}

/-- A run does no more than intern the spellings that the table lacked. -/
theorem Interns.exists_missing (run : table.Interns log last) :
    ∃ new, new.map Prod.fst = table.missing (log.map Prod.fst) ∧ table.Interns new last ∧
      last.size = table.size + (table.missing (log.map Prod.fst)).length := by
  obtain ⟨once, names, short⟩ := run.exists_eraseDups
  let lacks (spelling : String) : Bool := (table.get? spelling).isNone
  have known (spelling : String) (dropped : lacks spelling = false) :
      (table.get? spelling).isSome :=
    Option.isNone_eq_false_iff.mp dropped
  have interned := short.filter lacks known
  have logged : (once.filter fun entry => lacks entry.1).map Prod.fst =
      table.missing (log.map Prod.fst) := by
    rw [missing, ← names, List.filter_map]
    rfl
  have distinct : (table.missing (log.map Prod.fst)).Nodup :=
    (nodup_eraseDups (log.map Prod.fst)).filter lacks
  have grown := interned.size_eq_of_new (logged ▸ distinct) fun spelling member => by
    rw [logged] at member
    exact Option.isNone_iff_eq_none.mp (List.mem_filter.mp member).2
  refine ⟨_, logged, interned, ?_⟩
  rw [grown, ← logged, List.length_map]

end SymbolTable

/-! ## Definitions and the store around them -/

namespace Store

variable {store later last : Store} {e : FrameId} {bindings : List Binding} {name : String}

/-- There is room for definitions if no shard overflows with their names. -/
theorem exists_defineAll_of_fits (ready : store.Ready e)
    (room : (store.tableOf e).Fits (bindings.map Binding.name)) :
    ∃ later, defineAll e bindings store = (.ok (), later) := by
  obtain ⟨wide, valid, covers, names⟩ := ready.valid.exists_covers room
  exact defineAll_of_covers ready valid covers fun _ bound => names _ (List.mem_map_of_mem bound)

namespace Defined

variable (defined : Defined e bindings store later)

include defined

/-- In a global environment a name that was defined has its last value. -/
theorem exists_lookupNamed (ready : store.Ready e) (top : store.isGlobal e = true)
    (listed : name ∈ bindings.map Binding.name) :
    ∃ before value after, bindings = before ++ ⟨name, value⟩ :: after ∧
      name ∉ after.map Binding.name ∧ later.lookupNamed e name = .ok value := by
  have present : lastValue? bindings name ≠ none := mt lastValue?_eq_none_iff.mp (not_not.mpr listed)
  obtain ⟨value, last⟩ := Option.ne_none_iff_exists'.mp present
  obtain ⟨before, after, split, apart⟩ := lastValue?_eq_some_iff.mp last
  refine ⟨before, value, after, split, apart, ?_⟩
  rw [lookupNamed_of_isGlobal (defined.isGlobal top) (defined.wellFormed ready.valid),
    defined.named? ready.valid, last, Option.some_or]

/-- Defined once more, the names are in no table twice. -/
theorem tables_again (ready : store.Ready e) (again : Defined e bindings later last) :
    last.tables = later.tables := by
  have made := (defined.ready ready).table_lt
  have madeLast := ((again.ready (defined.ready ready))).table_lt
  have same := defined.tableOf_again again
  refine Array.ext_getElem? fun id => ?_
  by_cases own : id = (later.frame e).table
  · subst own
    unfold tableOf Store.table at same
    rw [again.table] at same madeLast
    rw [Array.getElem?_eq_getElem made, Array.getElem?_eq_getElem madeLast] at same ⊢
    exact congrArg some same
  · exact again.tables id own

end Defined

end Store

open Store

/-- A library with valid names is installed into every global environment where no shard overflows.
It reports its entries, repetitions included, and every name has the value of its last entry from then
on, whatever it was bound to before. The table has gained the names that it lacked, in the order of
their first occurrence, and no other spelling. A symbol that spells none of the names is bound as it was,
and no other frame and no other table has changed. The same library once more reports the same and changes
no binding and no table. -/
theorem Library.install_effect {library : Library} {store : Store} {e : FrameId}
    (reachable : store.Reachable) (made : e < store.frames.size) (top : store.isGlobal e = true)
    (valid : ∀ binding ∈ library.bindings, binding.Valid)
    (room : (store.tableOf e).Fits (library.bindings.map Binding.name)) :
    let names := library.bindings.map Binding.name
    let missing := (store.tableOf e).missing names
    ∃ later, library.install e store = (.ok library.bindings.length, later) ∧
      (∀ name ∈ names, ∃ before value after, library.bindings = before ++ ⟨name, value⟩ :: after ∧
        name ∉ after.map Binding.name ∧ later.lookupNamed e name = .ok value) ∧
      (∃ log, log.map Prod.fst = missing ∧ (store.tableOf e).Interns log (later.tableOf e)) ∧
      (later.tableOf e).size = (store.tableOf e).size + missing.length ∧
      (∀ symbol, (∀ name ∈ names, (later.tableOf e).get? name ≠ some symbol) →
        later.local? e symbol = store.local? e symbol) ∧
      (∀ f, f ≠ e → later.frames[f]? = store.frames[f]?) ∧
      (later.frame e).parent = (store.frame e).parent ∧
      (later.frame e).table = (store.frame e).table ∧
      later.frames.size = store.frames.size ∧
      (∀ id, id ≠ (store.frame e).table → later.tables[id]? = store.tables[id]?) ∧
      ∃ last, library.install e later = (.ok library.bindings.length, last) ∧
        last.tables = later.tables ∧ last.frames.size = later.frames.size ∧
        ∀ f symbol, last.local? f symbol = later.local? f symbol := by
  intro names missing
  have ready := reachable.wellFormed.ready made
  obtain ⟨later, run⟩ := exists_defineAll_of_fits ready room
  have defined := defined_of_defineAll ready run
  have topLater := defined.isGlobal top
  obtain ⟨log, logged, interned⟩ := defined.interns
  obtain ⟨new, newNames, short, grown⟩ := interned.exists_missing
  rw [logged] at newNames grown
  obtain ⟨last, again⟩ := defined.exists_again ready
  have redefined := defined_of_defineAll (defined.ready ready) again
  refine ⟨later, library.install_of_defineAll top valid run,
    fun name listed => defined.exists_lookupNamed ready top listed, ⟨new, newNames, short⟩, grown,
    fun symbol unnamed => defined.local?_of_unnamed ready.valid unnamed, defined.frames, defined.parent,
    defined.table, defined.frames_size, defined.tables, last, ?_⟩
  exact ⟨library.install_of_defineAll topLater valid again, defined.tables_again ready redefined,
    redefined.frames_size, defined.local?_again redefined⟩

/-- The library gives two names twice. One of them was bound to yet another value, and the environment
has a symbol of its own, which keeps its value. -/
theorem Library.install_effect_repeated :
    let library : Library := ⟨"twice",
      [⟨"x", .integer 1⟩, ⟨"y", .boolean true⟩, ⟨"x", .integer 2⟩, ⟨"z", .null⟩, ⟨"y", .integer 3⟩]⟩
    let store := (defineAll 0 [⟨"y", .null⟩, ⟨"own", .integer 7⟩] (createGlobal {}).2).2
    let own : Symbol := .ofParts 0 6 0
    ∃ later last, library.install 0 store = (.ok 5, later) ∧
      later.lookupNamed 0 "x" = .ok (.integer 2) ∧ later.lookupNamed 0 "y" = .ok (.integer 3) ∧
      (store.tableOf 0).missing ["x", "y", "x", "z", "y"] = ["x", "z"] ∧
      (later.tableOf 0).size = (store.tableOf 0).size + 2 ∧
      later.local? 0 own = store.local? 0 own ∧ (store.local? 0 own).isSome ∧
      library.install 0 later = (.ok 5, last) ∧ last.tables = later.tables := by
  intro library store own
  have start : (createGlobal {}).2.Reachable := Reachable.createGlobal .refl
  have reachable : store.Reachable :=
    start.trans (changes_defineAll _ (start.wellFormed.ready Nat.one_pos))
  have made : 0 < store.frames.size := by decide +kernel
  have top : store.isGlobal 0 = true := by decide +kernel
  have ready := reachable.wellFormed.ready made
  have valid (binding : Binding) (listed : binding ∈ library.bindings) : binding.Valid := by
    have names : library.bindings.map Binding.name = ["x", "y", "x", "z", "y"] := rfl
    have short : ∀ name ∈ ["x", "y", "x", "z", "y"], Text.checkName name = .ok 1 := by decide +kernel
    exact ⟨1, short _ (names ▸ List.mem_map_of_mem listed)⟩
  have room : (store.tableOf 0).Fits (library.bindings.map Binding.name) := by
    have few : (store.tableOf 0).size + (library.bindings.map Binding.name).length ≤
        Symbol.maxSlot + 1 := by decide +kernel
    exact ready.valid.fits_of_size_le few
  have lacking : (store.tableOf 0).missing ["x", "y", "x", "z", "y"] = ["x", "z"] := by
    decide +kernel
  obtain ⟨later, first, bound, _, grown, kept, _, _, _, _, _, last, second, same, _⟩ :=
    Library.install_effect reachable made top valid room
  have reads (name : String) (value : Value) (listed : name ∈ library.bindings.map Binding.name)
      (given : lastValue? library.bindings name = some value) :
      later.lookupNamed 0 name = .ok value := by
    obtain ⟨before, other, after, split, apart, read⟩ := bound name listed
    cases given.symm.trans (lastValue?_eq_some_iff.mpr ⟨before, after, split, apart⟩)
    exact read
  rw [show library.bindings.map Binding.name = ["x", "y", "x", "z", "y"] from rfl, lacking] at grown
  obtain rfl : (library.install 0 store).2 = later := by rw [first]
  exact ⟨_, last, first, reads _ _ (by decide) rfl, reads _ _ (by decide) rfl, lacking, grown,
    kept own (by decide +kernel), by decide +kernel, second, same⟩

end SchemeBase
