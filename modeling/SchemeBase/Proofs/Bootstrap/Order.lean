import SchemeBase.Proofs.Bootstrap.Refusal
import SchemeBase.Proofs.Store.Lookup

/-! # The order of the libraries

Bootstraps over the same libraries in different orders stage other bindings in another order, and
give other symbols to the names. What a program can see of that is the same up to equivalence of
values: which selections are accepted, what every name is bound to, and how many symbols the frame
and the table have. Symbols are compared by what they spell, and those that a run adds are counted.
-/

namespace SchemeBase

variable {offers : List Offer} {name : String}

theorem firstOffer?_eq_none_iff :
    firstOffer? offers name = none ↔ ¬ ∃ offer ∈ offers, offer.binding.name = name := by
  simp only [firstOffer?, List.find?_eq_none, beq_iff_eq, not_exists, not_and]

/-- What several libraries bind, in order. -/
def bindingsOf (libraries : List Library) : List Binding :=
  libraries.flatMap (·.bindings)

theorem bindingsOf_cons (library : Library) (libraries : List Library) :
    bindingsOf (library :: libraries) = library.bindings ++ bindingsOf libraries :=
  List.flatMap_cons

theorem bindingsOf_concat (libraries : List Library) (library : Library) :
    bindingsOf (libraries ++ [library]) = bindingsOf libraries ++ library.bindings := by
  rw [bindingsOf, List.flatMap_append, List.flatMap_singleton, bindingsOf]

theorem mem_bindingsOf_iff {libraries : List Library} {binding : Binding} :
    binding ∈ bindingsOf libraries ↔ ∃ offer ∈ offersOf libraries, offer.binding = binding := by
  simp only [bindingsOf, offersOf, Library.offers, List.mem_flatMap, List.mem_map]
  constructor
  · rintro ⟨library, member, bound⟩
    exact ⟨⟨binding, library.name⟩, ⟨library, member, binding, bound, rfl⟩, rfl⟩
  · rintro ⟨_, ⟨library, member, _, bound, rfl⟩, rfl⟩
    exact ⟨library, member, bound⟩

/-- Both values are missing, or they are equivalent. -/
abbrev SameValue : Option Value → Option Value → Prop :=
  Option.Rel fun one other => one.eqv other = true

namespace SameValue

variable {one other another : Option Value}

theorem refl (value : Option Value) : SameValue value value := by
  cases value with
  | none => exact .none
  | some value => exact .some (Value.eqv_refl value)

theorem symm (same : SameValue one other) : SameValue other one := by
  cases same with
  | none => exact .none
  | some same => exact .some ((Value.eqv_comm _ _).trans same)

theorem trans (left : SameValue one other) (right : SameValue other another) :
    SameValue one another := by
  cases left with
  | none => exact right
  | some left =>
    cases right with
    | some right => exact .some (Value.eqv_trans left right)

theorem or (same : SameValue one other) (before : Option Value) :
    SameValue (one.or before) (other.or before) := by
  cases same with
  | none => exact refl before
  | some same => exact .some same

end SameValue

/-! ## What is staged -/

namespace Staging

variable {staging : Staging} {binding : Binding} {first : Offer}

theorem first?_of_mem (member : binding ∈ staging.bindings) :
    ∃ origin, staging.first? binding.name = some ⟨binding, origin⟩ := by
  obtain ⟨place, placed⟩ := Array.getElem?_of_mem member
  obtain ⟨origin, known⟩ := (staging.seen_iff binding.name place).mpr ⟨binding, placed, rfl⟩
  exact ⟨origin, by simp [first?, known, placed]⟩

theorem mem_of_first? (found : staging.first? name = some first) :
    first.binding ∈ staging.bindings ∧ first.binding.name = name := by
  obtain ⟨⟨place, origin⟩, known, rest⟩ := Option.bind_eq_some_iff.mp found
  obtain ⟨binding, placed, same⟩ := Option.bind_eq_some_iff.mp rest
  cases same
  obtain ⟨other, again, named⟩ := (staging.seen_iff name place).mp ⟨origin, known⟩
  cases placed.symm.trans again
  exact ⟨Array.mem_of_getElem? placed, named⟩

/-- No name is staged twice. -/
theorem nodup_names (staging : Staging) : (staging.bindings.toList.map Binding.name).Nodup := by
  rw [List.nodup_iff_getElem?_ne_getElem?]
  intro i j before bound same
  rw [List.length_map, Array.length_toList] at bound
  have placed := Array.getElem?_eq_getElem bound
  rw [List.getElem?_map, List.getElem?_map, Array.getElem?_toList, Array.getElem?_toList, placed,
    Option.map_some, Option.map_eq_some_iff] at same
  obtain ⟨origin, known⟩ := (staging.seen_iff _ j).mpr ⟨_, placed, rfl⟩
  obtain ⟨earlier, again⟩ := (staging.seen_iff _ i).mpr same
  cases again.symm.trans known
  exact Nat.lt_irrefl _ before

/-- Each name is staged with the value of its first offer. -/
theorem Holds.lastValue?_eq (holds : staging.Holds offers) (name : String) :
    lastValue? staging.bindings.toList name =
      (firstOffer? offers name).map (·.binding.value) := by
  rw [← holds name]
  cases last : lastValue? staging.bindings.toList name with
  | some value =>
    obtain ⟨binding, member, rfl, rfl⟩ := exists_of_lastValue? last
    obtain ⟨origin, found⟩ := first?_of_mem (Array.mem_toList_iff.mp member)
    rw [found, Option.map_some]
  | none =>
    cases found : staging.first? name with
    | none => rfl
    | some first =>
      obtain ⟨member, named⟩ := mem_of_first? found
      exact absurd (List.mem_map.mpr ⟨first.binding, Array.mem_toList_iff.mpr member, named⟩)
        (lastValue?_eq_none_iff.mp last)

/-- The staged names are the offered ones. -/
theorem Holds.mem_names_iff (holds : staging.Holds offers) :
    name ∈ staging.bindings.toList.map Binding.name ↔
      ∃ offer ∈ offers, offer.binding.name = name := by
  rw [← not_iff_not, ← lastValue?_eq_none_iff, holds.lastValue?_eq, Option.map_eq_none_iff,
    firstOffer?_eq_none_iff]

/-- The last value that an accepted selection gives a name in any order, with any repetitions,
agrees with the first one, which is staged. -/
theorem Holds.sameValue_lastValue? {selected libraries : List Library}
    (holds : staging.Holds (offersOf selected)) (agree : Agree (offersOf selected))
    (same : ∀ library, library ∈ libraries ↔ library ∈ selected) (name : String) :
    SameValue (lastValue? staging.bindings.toList name)
      (lastValue? (bindingsOf libraries) name) := by
  have bound (binding : Binding) : binding ∈ bindingsOf libraries ↔
      ∃ offer ∈ offersOf selected, offer.binding = binding := by
    rw [← mem_bindingsOf_iff]
    simp only [bindingsOf, List.mem_flatMap, same]
  rw [holds.lastValue?_eq]
  cases found : firstOffer? (offersOf selected) name with
  | none =>
    have absent : name ∉ (bindingsOf libraries).map Binding.name := by
      rintro member
      obtain ⟨binding, inside, named⟩ := List.mem_map.mp member
      obtain ⟨offer, offered, rfl⟩ := (bound binding).mp inside
      exact firstOffer?_eq_none_iff.mp found ⟨offer, offered, named⟩
    rw [lastValue?_eq_none_iff.mpr absent]
    exact .none
  | some first =>
    obtain ⟨offered, named⟩ := firstOffer?_eq_some found
    have present : name ∈ (bindingsOf libraries).map Binding.name :=
      List.mem_map.mpr ⟨first.binding, (bound _).mpr ⟨first, offered, rfl⟩, named⟩
    obtain ⟨value, last⟩ := Option.ne_none_iff_exists'.mp
      (mt lastValue?_eq_none_iff.mp (not_not.mpr present))
    obtain ⟨binding, inside, bindingNamed, rfl⟩ := exists_of_lastValue? last
    obtain ⟨offer, alsoOffered, rfl⟩ := (bound binding).mp inside
    rw [last]
    exact .some (agree first offered offer alsoOffered (named.trans bindingNamed.symm))

end Staging

/-! ## What a run leaves -/

namespace Bootstrap

open Store

variable {store later : Store} {e : FrameId} {bootstrap : Bootstrap} {report : BootstrapReport}

/-- A staging of a selection without fault was defined and reported. -/
structure Installed (bootstrap : Bootstrap) (e : FrameId) (store : Store) (staging : Staging)
    (report : BootstrapReport) (later : Store) : Prop where
  sound : ∀ library ∈ bootstrap.libraries, library.Sound (offersOf bootstrap.libraries)
  holds : staging.Holds (offersOf bootstrap.libraries)
  defined : Defined e staging.bindings.toList store later
  count : report.bindings = staging.bindings.size

theorem installed_of_staged (staged : stage bootstrap.libraries = .ok staging)
    (defined : Defined e staging.bindings.toList store later) :
    bootstrap.Installed e store staging ⟨bootstrap.libraryNames, staging.bindings.size⟩ later := by
  obtain ⟨sound, _, again, holds⟩ | ⟨_, _, ends⟩ := stage_cases bootstrap.libraries
  · cases staged.symm.trans again
    exact ⟨sound, holds, defined, rfl⟩
  · cases staged.symm.trans ends

theorem installed_of_run (ready : store.Ready e)
    (success : (bootstrap.run e store).1 = .ok report) :
    ∃ staging, bootstrap.Installed e store staging report (bootstrap.run e store).2 := by
  have run : bootstrap.run e store = (.ok report, (bootstrap.run e store).2) :=
    Prod.ext success rfl
  obtain ⟨_, staging, staged, defined, rfl⟩ := run_eq_ok_iff.mp run
  exact ⟨staging, installed_of_staged staged (defined_of_defineAll ready defined)⟩

/-- A selection without fault is installed if some table can hold all its names beside what is
known already. -/
theorem exists_run (ready : store.Ready e) (top : store.isGlobal e = true)
    (sound : ∀ library ∈ bootstrap.libraries, library.Sound (offersOf bootstrap.libraries))
    {wide : SymbolTable} (valid : wide.WellFormed)
    (covers : ∀ spelling, ((store.tableOf e).get? spelling).isSome → (wide.get? spelling).isSome)
    (names : ∀ offer ∈ offersOf bootstrap.libraries, (wide.get? offer.binding.name).isSome) :
    ∃ report, (bootstrap.run e store).1 = .ok report := by
  obtain ⟨_, staging, staged, holds⟩ | ⟨_, refused, _⟩ := stage_cases bootstrap.libraries
  · have room (binding : Binding) (member : binding ∈ staging.bindings.toList) :
        (wide.get? binding.name).isSome := by
      obtain ⟨offer, offered, same⟩ := holds.mem_names_iff.mp (List.mem_map_of_mem member)
      exact same ▸ names offer offered
    obtain ⟨after, defined⟩ := defineAll_of_covers ready valid covers room
    have run := run_eq_ok_iff.mpr ⟨.inl top, staging, staged, defined, rfl⟩
    exact ⟨_, by rw [run]⟩
  · exact absurd sound refused.not_forall_sound

/-! ## Two orders -/

variable {a b : List Selection}

theorem offersOf_perm (perm : a.Perm b) :
    (offersOf (libraries ⟨a⟩)).Perm (offersOf (libraries ⟨b⟩)) :=
  (perm.map _).flatMap_right _

/-- Whether a selection has a fault does not depend on its order. -/
theorem sound_of_perm (perm : a.Perm b)
    (sound : ∀ library ∈ libraries ⟨a⟩, library.Sound (offersOf (libraries ⟨a⟩))) :
    ∀ library ∈ libraries ⟨b⟩, library.Sound (offersOf (libraries ⟨b⟩)) := by
  have same := offersOf_perm perm
  rw [forall_sound_iff] at sound ⊢
  obtain ⟨valid, agree⟩ := sound
  constructor
  · intro offer member
    exact valid offer (same.mem_iff.mpr member)
  · intro one memberOne other memberOther
    exact agree one (same.mem_iff.mpr memberOne) other (same.mem_iff.mpr memberOther)

/-- A run succeeds if one in another order does: it needs the same room. -/
theorem run_of_perm (perm : a.Perm b) (ready : store.Ready e) (top : store.isGlobal e = true)
    (success : ∃ report, (run ⟨a⟩ e store).1 = .ok report) :
    ∃ report, (run ⟨b⟩ e store).1 = .ok report := by
  obtain ⟨report, success⟩ := success
  obtain ⟨staging, installed⟩ := installed_of_run ready success
  have known := installed.defined.isSome_get?_iff
  have valid := installed.defined.wellFormed ready.valid
  refine exists_run ready top (sound_of_perm perm installed.sound) valid
    (fun spelling old => (known spelling).mpr (.inl old)) ?_
  intro offer member
  refine (known _).mpr (.inr (installed.holds.mem_names_iff.mpr ⟨offer, ?_, rfl⟩))
  exact (offersOf_perm perm).mem_iff.mpr member

/-- Two lookups of a name find nothing, or find equivalent values. -/
inductive Alike (name : String) : Except EvalError Value → Except EvalError Value → Prop
  | unbound : Alike name (.error (.unboundVariable name)) (.error (.unboundVariable name))
  | bound {one other : Value} (same : one.eqv other = true) : Alike name (.ok one) (.ok other)

/-- Names with equivalent values are looked up alike. -/
theorem alike_of_named? {other : Store} {name : String}
    (top : store.isGlobal e = true) (valid : (store.tableOf e).WellFormed)
    (otherTop : other.isGlobal e = true) (otherValid : (other.tableOf e).WellFormed)
    (same : SameValue (store.named? e name) (other.named? e name)) :
    Alike name (store.lookupNamed e name) (other.lookupNamed e name) := by
  rw [lookupNamed_of_isGlobal top valid, lookupNamed_of_isGlobal otherTop otherValid]
  generalize store.named? e name = one, other.named? e name = another at same ⊢
  cases same with
  | none => exact .unbound
  | some same => exact .bound same

namespace Installed

variable {stagingA stagingB : Staging} {reportA reportB : BootstrapReport} {laterA laterB : Store}

variable (perm : a.Perm b) (left : Installed ⟨a⟩ e store stagingA reportA laterA)
  (right : Installed ⟨b⟩ e store stagingB reportB laterB)

include perm left right

theorem mem_names_iff (name : String) : name ∈ stagingA.bindings.toList.map Binding.name ↔
    name ∈ stagingB.bindings.toList.map Binding.name := by
  rw [left.holds.mem_names_iff, right.holds.mem_names_iff]
  simp only [(offersOf_perm perm).mem_iff]

/-- Both reports count the different names. -/
theorem report_bindings_eq : reportA.bindings = reportB.bindings := by
  have same := (List.perm_ext_iff_of_nodup stagingA.nodup_names stagingB.nodup_names).mpr
    (left.mem_names_iff perm right)
  have counted := same.length_eq
  rw [List.length_map, List.length_map, Array.length_toList, Array.length_toList] at counted
  rw [left.count, right.count, counted]

/-- Both tables know the same spellings, -/
theorem knows_iff (spelling : String) :
    ((laterA.tableOf e).get? spelling).isSome ↔ ((laterB.tableOf e).get? spelling).isSome := by
  rw [left.defined.isSome_get?_iff, right.defined.isSome_get?_iff, left.mem_names_iff perm right]

/-- so both frames bind the same symbols, even where these spell different names. -/
theorem localSize_eq (valid : (store.tableOf e).WellFormed) :
    laterA.localSize e = laterB.localSize e := by
  have validA := left.defined.wellFormed valid
  have validB := right.defined.wellFormed valid
  have tags : (laterA.tableOf e).tag = (laterB.tableOf e).tag := by
    obtain ⟨_, _, runA⟩ := left.defined.interns
    obtain ⟨_, _, runB⟩ := right.defined.interns
    rw [runA.extension.tag_eq, runB.extension.tag_eq]
  have bound (symbol : Symbol) :
      (laterA.local? e symbol).isSome ↔ (laterB.local? e symbol).isSome := by
    rw [left.defined.isSome_local?_iff valid, right.defined.isSome_local?_iff valid,
      validA.isSome_resolve?_of_knows (left.knows_iff perm right) validB tags]
    simp only [left.mem_names_iff perm right]
  have same : (laterA.localSymbols e).Perm (laterB.localSymbols e) := by
    apply (List.perm_ext_iff_of_nodup Std.TreeMap.nodup_keys Std.TreeMap.nodup_keys).mpr
    intro symbol
    rw [Std.TreeMap.mem_keys, Std.TreeMap.mem_keys, Std.TreeMap.mem_iff_isSome_getElem?,
      Std.TreeMap.mem_iff_isSome_getElem?]
    exact bound symbol
  have counted := same.length_eq
  rwa [localSymbols, localSymbols, Std.TreeMap.length_keys, Std.TreeMap.length_keys] at counted

/-- The first offers of a name need not be the same, but they agree. -/
theorem alike (valid : (store.tableOf e).WellFormed) (top : store.isGlobal e = true)
    (name : String) : Alike name (laterA.lookupNamed e name) (laterB.lookupNamed e name) := by
  have members (library : Library) : library ∈ libraries ⟨b⟩ ↔ library ∈ libraries ⟨a⟩ :=
    (perm.map _).mem_iff.symm
  have first := left.holds.sameValue_lastValue? ((forall_sound_iff _).mp left.sound).2 members name
  have second := right.holds.sameValue_lastValue? ((forall_sound_iff _).mp right.sound).2
    (fun _ => Iff.rfl) name
  apply alike_of_named? (left.defined.isGlobal top) (left.defined.wellFormed valid)
    (right.defined.isGlobal top) (right.defined.wellFormed valid)
  rw [left.defined.named? valid, right.defined.named? valid]
  exact (first.trans second.symm).or _

end Installed

/-- Bootstraps over the same libraries in different orders both succeed or both fail. If they
succeed, all names have equivalent values or none in the two environments, and the frames, the
tables and the reports have the same counts. -/
theorem run_perm (reachable : store.Reachable) (made : e < store.frames.size)
    (top : store.isGlobal e = true) (perm : a.Perm b) :
    ((∃ report, (run ⟨a⟩ e store).1 = .ok report) ↔
      ∃ report, (run ⟨b⟩ e store).1 = .ok report) ∧
    ∀ reportA reportB, (run ⟨a⟩ e store).1 = .ok reportA → (run ⟨b⟩ e store).1 = .ok reportB →
      let laterA := (run ⟨a⟩ e store).2
      let laterB := (run ⟨b⟩ e store).2
      (∀ name, Alike name (laterA.lookupNamed e name) (laterB.lookupNamed e name)) ∧
      laterA.localSize e = laterB.localSize e ∧
      (laterA.tableOf e).size = (laterB.tableOf e).size ∧
      reportA.bindings = reportB.bindings := by
  have ready := reachable.wellFormed.ready made
  refine ⟨⟨run_of_perm perm ready top, run_of_perm perm.symm ready top⟩, ?_⟩
  intro reportA reportB successA successB laterA laterB
  obtain ⟨_, left⟩ := installed_of_run ready successA
  obtain ⟨_, right⟩ := installed_of_run ready successB
  have validA := left.defined.wellFormed ready.valid
  have validB := right.defined.wellFormed ready.valid
  exact ⟨left.alike perm right ready.valid top, left.localSize_eq perm right ready.valid,
    validA.size_eq_of_knows (left.knows_iff perm right) validB, left.report_bindings_eq perm right⟩

/-- The second order names `z` first and takes `x` from the other library. -/
theorem run_perm_swapped :
    let one : Library := ⟨"one", [⟨"x", .integer 1⟩, ⟨"y", .boolean true⟩]⟩
    let two : Library := ⟨"two", [⟨"z", .null⟩, ⟨"x", .integer 1⟩]⟩
    let store := (createGlobal {}).2
    let there := run ⟨[.host one, .host two]⟩ 0 store
    let back := run ⟨[.host two, .host one]⟩ 0 store
    there.1 = .ok ⟨["one", "two"], 3⟩ ∧ back.1 = .ok ⟨["two", "one"], 3⟩ ∧
      (∀ name, Alike name (there.2.lookupNamed 0 name) (back.2.lookupNamed 0 name)) ∧
      there.2.localSize 0 = back.2.localSize 0 ∧
      (there.2.tableOf 0).size = (back.2.tableOf 0).size := by
  intro one two store there back
  have reachable : store.Reachable := by
    have made : 0 < (createTable {}).2.tables.size := Nat.one_pos
    exact .tail (.single (.createTable {})) (.globalIn made)
  have successThere : there.1 = .ok ⟨["one", "two"], 3⟩ := by decide +kernel
  have successBack : back.1 = .ok ⟨["two", "one"], 3⟩ := by decide +kernel
  have swapped : [Selection.host one, .host two].Perm [.host two, .host one] := .swap _ _ _
  obtain ⟨names, frames, tables, _⟩ :=
    (run_perm reachable Nat.one_pos rfl swapped).2 _ _ successThere successBack
  exact ⟨successThere, successBack, names, frames, tables⟩

end Bootstrap

end SchemeBase
