import SchemeBase.Proofs.Bootstrap.Order
import SchemeBase.Proofs.Bootstrap.Selection

/-! # Libraries one after another

A bootstrap keeps the first value of a name and defines it once. Installing its libraries one after
another defines a name again with each library and keeps the last value. As all values of a name
agree in a selection that is accepted, both leave equivalent bindings, whatever the order of the
libraries and however often each of them is installed. In the order of the selection they also give
the names the same symbols, since only the first occurrence of a name makes one.
-/

namespace SchemeBase

open Store

variable {store later : Store} {e : FrameId} {bootstrap : Bootstrap} {report : BootstrapReport}

/-! ## The order in which names are staged -/

namespace Staging

variable {staging next : Staging} {name origin : String} {binding : Binding}

/-- The names that are staged, in order. -/
def names (staging : Staging) : List String :=
  staging.bindings.toList.map Binding.name

theorem mem_names_iff : name ∈ staging.names ↔ (staging.seen[name]?).isSome := by
  rw [names, List.mem_map, Option.isSome_iff_exists]
  constructor
  · rintro ⟨binding, member, named⟩
    obtain ⟨place, placed⟩ := Array.getElem?_of_mem (Array.mem_toList_iff.mp member)
    obtain ⟨origin, known⟩ := (staging.seen_iff name place).mpr ⟨binding, placed, named⟩
    exact ⟨_, known⟩
  · rintro ⟨⟨place, origin⟩, known⟩
    obtain ⟨binding, placed, named⟩ := (staging.seen_iff name place).mp ⟨origin, known⟩
    exact ⟨binding, Array.mem_toList_iff.mpr (Array.mem_of_getElem? placed), named⟩

/-- A new name is staged last, and a known one where it is. -/
theorem names_stageBinding (staged : Bootstrap.stageBinding origin staging binding = .ok next) :
    next.names = staging.names ++ if binding.name ∈ staging.names then [] else [binding.name] := by
  unfold Bootstrap.stageBinding at staged
  split at staged
  · next place first known =>
    have old : binding.name ∈ staging.names := by
      rw [mem_names_iff, known]
      rfl
    simp only [] at staged
    split at staged
    · cases staged
      rw [if_pos old, List.append_nil]
    · cases staged
  · next known =>
    have new : binding.name ∉ staging.names := by
      rw [mem_names_iff, known]
      exact Bool.false_ne_true
    cases staged
    rw [if_neg new]
    simp only [names, push, Array.toList_push, List.map_append, List.map_singleton]

/-- Staging keeps the names in the order of their first occurrence. -/
theorem names_foldlM_stageBinding {bindings : List Binding} {known : List String}
    (ordered : staging.names = known.eraseDups)
    (staged : bindings.foldlM (Bootstrap.stageBinding origin) staging = .ok next) :
    next.names = (known ++ bindings.map Binding.name).eraseDups := by
  induction bindings generalizing staging known with
  | nil =>
    cases staged
    rw [ordered, List.map_nil, List.append_nil]
  | cons binding bindings ih =>
    rw [List.foldlM_cons] at staged
    cases step : Bootstrap.stageBinding origin staging binding with
    | error _ =>
      rw [step] at staged
      cases staged
    | ok middle =>
      rw [step] at staged
      have here : middle.names = (known ++ [binding.name]).eraseDups := by
        rw [names_stageBinding step, ordered, eraseDups_concat]
        simp only [List.mem_eraseDups]
      rw [ih here staged, List.map_cons, List.append_assoc, List.singleton_append]

end Staging

namespace Bootstrap

theorem names_foldlM_stageLibrary {libraries : List Library} {staging last : Staging}
    {known : List String} (ordered : staging.names = known.eraseDups)
    (staged : libraries.foldlM stageLibrary staging = .ok last) :
    last.names = (known ++ (bindingsOf libraries).map Binding.name).eraseDups := by
  induction libraries generalizing staging known with
  | nil =>
    cases staged
    rw [ordered, bindingsOf, List.flatMap_nil, List.map_nil, List.append_nil]
  | cons library libraries ih =>
    rw [List.foldlM_cons] at staged
    cases step : stageLibrary staging library with
    | error _ =>
      rw [step] at staged
      cases staged
    | ok middle =>
      rw [step] at staged
      have here : middle.names = (known ++ library.bindings.map Binding.name).eraseDups := by
        unfold stageLibrary at step
        obtain ⟨_, checked⟩ | ⟨_, _, _, _, _, _, _, checked⟩ := library.checkNames_cases
        · rw [checked] at step
          exact Staging.names_foldlM_stageBinding ordered step
        · rw [checked] at step
          cases step
      rw [ih here staged, bindingsOf_cons, List.map_append, List.append_assoc]

/-- A name is staged once, where it first occurs in the selection. -/
theorem names_stage {libraries : List Library} {staging : Staging}
    (staged : stage libraries = .ok staging) :
    staging.names = ((bindingsOf libraries).map Binding.name).eraseDups := by
  have start : Staging.empty.names = ([] : List String).eraseDups := rfl
  exact names_foldlM_stageLibrary start staged

end Bootstrap

/-! ## Repeated libraries -/

/-- Libraries in the order in which a selection first names them, where any later mention of one may
be left out. -/
inductive Library.InOrder : List Library → List Library → Prop
  | nil : InOrder [] []
  | keep {selected libraries : List Library} (library : Library)
      (ordered : InOrder selected libraries) :
      InOrder (selected ++ [library]) (libraries ++ [library])
  | skip {selected libraries : List Library} {library : Library} (again : library ∈ libraries)
      (ordered : InOrder selected libraries) : InOrder (selected ++ [library]) libraries

namespace Library.InOrder

variable {selected libraries : List Library}

theorem refl (selected : List Library) : InOrder selected selected := by
  induction selected using List.reverseRecOn with
  | nil => exact .nil
  | append_singleton _ library ih => exact .keep library ih

theorem mem_iff (ordered : InOrder selected libraries) (library : Library) :
    library ∈ libraries ↔ library ∈ selected := by
  induction ordered with
  | nil => exact Iff.rfl
  | keep _ _ ih => rw [List.mem_append, List.mem_append, ih]
  | skip again _ ih =>
    rw [List.mem_append, List.mem_singleton, ← ih]
    refine ⟨.inl, ?_⟩
    rintro (before | rfl)
    · exact before
    · exact again

/-- A repeated library has no name that is not known already. -/
theorem eraseDups_names_eq (ordered : InOrder selected libraries) :
    ((bindingsOf libraries).map Binding.name).eraseDups =
      ((bindingsOf selected).map Binding.name).eraseDups := by
  induction ordered with
  | nil => rfl
  | @keep selected libraries library _ ih =>
    have known (name : String) : name ∈ (bindingsOf libraries).map Binding.name ↔
        name ∈ (bindingsOf selected).map Binding.name := by
      rw [← List.mem_eraseDups, ih, List.mem_eraseDups]
    rw [bindingsOf_concat, bindingsOf_concat, List.map_append, List.map_append,
      List.eraseDups_append, List.eraseDups_append, ih]
    simp only [List.removeAll, List.elem_eq_mem, known]
  | @skip selected libraries library again ordered ih =>
    have old : (library.bindings.map Binding.name).removeAll
        ((bindingsOf selected).map Binding.name) = [] := by
      rw [List.removeAll, List.filter_eq_nil_iff]
      intro name member
      obtain ⟨binding, bound, rfl⟩ := List.mem_map.mp member
      have inside : binding ∈ bindingsOf selected :=
        List.mem_flatMap.mpr ⟨library, (ordered.mem_iff library).mp again, bound⟩
      simpa using ⟨binding, inside, rfl⟩
    rw [bindingsOf_concat, List.map_append, List.eraseDups_append, old, List.eraseDups_nil,
      List.append_nil, ih]

end Library.InOrder

/-! ## Installations one after another -/

/-- Installs libraries in order. -/
def Library.installAll (libraries : List Library) (e : FrameId) : StoreM InstallError Unit :=
  libraries.forM fun library => discard (library.install e)

theorem Store.defineAll_append (first second : List Binding)
    (run : defineAll e (first ++ second) store = (.ok (), later)) :
    ∃ middle, defineAll e first store = (.ok (), middle) ∧
      defineAll e second middle = (.ok (), later) := by
  have split : defineAll e (first ++ second) = (defineAll e first >>= fun _ => defineAll e second) :=
    List.forM_append
  rw [split] at run
  cases before : defineAll e first store with
  | mk result middle =>
    cases result with
    | ok _ =>
      rw [StoreM.bind_ok _ before] at run
      exact ⟨middle, rfl, run⟩
    | error _ =>
      rw [StoreM.bind_error _ before] at run
      cases run

theorem Library.checkNames_eq_ok {library : Library}
    (valid : ∀ binding ∈ library.bindings, binding.Valid) : library.checkNames = .ok () := by
  obtain ⟨_, checked⟩ | ⟨before, binding, after, cause, split, _, invalid, _⟩ :=
    library.checkNames_cases
  · exact checked
  · obtain ⟨length, checked⟩ := valid binding (by rw [split]; simp)
    cases checked.symm.trans invalid

theorem Library.install_of_defineAll {library : Library} (top : store.isGlobal e = true)
    (valid : ∀ binding ∈ library.bindings, binding.Valid)
    (defined : defineAll e library.bindings store = (.ok (), later)) :
    library.install e store = (.ok library.size, later) := by
  obtain ⟨inner, _⟩ | ⟨_, _, _, refused, _⟩ | ⟨_, _, _, again, run⟩ | ⟨_, _, _, _, again, _⟩ :=
    library.install_cases e store
  · cases top.symm.trans inner
  · cases (library.checkNames_eq_ok valid).symm.trans refused
  · cases defined.symm.trans again
    exact run
  · cases defined.symm.trans again

/-- Libraries with valid names are installed as their bindings are defined, one after another. -/
theorem Library.installAll_of_defineAll {libraries : List Library} (ready : store.Ready e)
    (top : store.isGlobal e = true)
    (valid : ∀ binding ∈ bindingsOf libraries, binding.Valid)
    (run : defineAll e (bindingsOf libraries) store = (.ok (), later)) :
    installAll libraries e store = (.ok (), later) := by
  induction libraries generalizing store with
  | nil =>
    cases run
    rfl
  | cons library libraries ih =>
    rw [bindingsOf_cons] at run valid
    obtain ⟨middle, first, rest⟩ := defineAll_append _ _ run
    obtain ⟨here, there⟩ := List.forall_mem_append.mp valid
    have defined := defined_of_defineAll ready first
    have step := StoreM.bind_ok (fun _ => pure ()) (library.install_of_defineAll top here first)
    exact (StoreM.bind_ok (fun _ => installAll libraries e) step).trans
      (ih (defined.ready ready) (defined.isGlobal top) there rest)

/-! ## The two ways compared -/

namespace Bootstrap

variable {staging : Staging} {libraries : List Library}

/-- Libraries of a selection that was installed can be installed one after another, in any order. -/
theorem Installed.exists_installAll
    (installed : bootstrap.Installed e store staging report later) (ready : store.Ready e)
    (top : store.isGlobal e = true)
    (same : ∀ library, library ∈ libraries ↔ library ∈ bootstrap.libraries) :
    ∃ last, Library.installAll libraries e store = (.ok (), last) ∧
      Defined e (bindingsOf libraries) store last := by
  have bound (binding : Binding) (inside : binding ∈ bindingsOf libraries) :
      ∃ offer ∈ offersOf bootstrap.libraries, offer.binding = binding := by
    rw [← mem_bindingsOf_iff]
    simpa only [bindingsOf, List.mem_flatMap, same] using inside
  have known := installed.defined.isSome_get?_iff
  have covered (binding : Binding) (inside : binding ∈ bindingsOf libraries) :
      ((later.tableOf e).get? binding.name).isSome := by
    obtain ⟨offer, offered, rfl⟩ := bound binding inside
    exact (known _).mpr (.inr (installed.holds.mem_names_iff.mpr ⟨offer, offered, rfl⟩))
  obtain ⟨last, run⟩ := defineAll_of_covers ready (installed.defined.wellFormed ready.valid)
    (fun spelling old => (known spelling).mpr (.inl old)) covered
  obtain ⟨valid, _⟩ := (forall_sound_iff _).mp installed.sound
  refine ⟨last, Library.installAll_of_defineAll ready top (fun binding inside => ?_) run,
    defined_of_defineAll ready run⟩
  obtain ⟨offer, offered, rfl⟩ := bound binding inside
  exact valid offer offered

/-- What an accepted selection leaves does not depend on whether its libraries are installed
together or one after another, in any order and with any repetitions. In the order of the selection
the names get the same symbols both ways. A second run has the same report, and changes no binding and no
table. -/
theorem run_eq_installAll (reachable : store.Reachable) (made : e < store.frames.size)
    (top : store.isGlobal e = true) (success : bootstrap.run e store = (.ok report, later)) :
    (∀ libraries : List Library, (∀ library, library ∈ libraries ↔ library ∈ bootstrap.libraries) →
      ∃ last, Library.installAll libraries e store = (.ok (), last) ∧
        ∀ name, Alike name (later.lookupNamed e name) (last.lookupNamed e name)) ∧
    (∀ libraries : List Library, Library.InOrder bootstrap.libraries libraries →
      ∃ last, Library.installAll libraries e store = (.ok (), last) ∧
        last.tableOf e = later.tableOf e) ∧
    ∃ last, bootstrap.run e later = (.ok report, last) ∧ last.tableOf e = later.tableOf e ∧
      ∀ f symbol, last.local? f symbol = later.local? f symbol := by
  have ready := reachable.wellFormed.ready made
  obtain ⟨_, staging, staged, run, rfl⟩ := run_eq_ok_iff.mp success
  have defined := defined_of_defineAll ready run
  have installed := installed_of_staged staged defined
  have validLater := defined.wellFormed ready.valid
  have topLater := defined.isGlobal top
  refine ⟨fun libraries same => ?_, fun libraries ordered => ?_, ?_⟩
  · obtain ⟨last, sequence, after⟩ := installed.exists_installAll ready top same
    refine ⟨last, sequence, fun name => ?_⟩
    apply alike_of_named? topLater validLater (after.isGlobal top) (after.wellFormed ready.valid)
    rw [defined.named? ready.valid, after.named? ready.valid]
    obtain ⟨_, agree⟩ := (forall_sound_iff _).mp installed.sound
    exact (installed.holds.sameValue_lastValue? agree same name).or _
  · obtain ⟨last, sequence, after⟩ := installed.exists_installAll ready top ordered.mem_iff
    refine ⟨last, sequence, ?_⟩
    obtain ⟨log, names, interned⟩ := after.interns
    rw [defined.tableOf_eq, ← Staging.names, names_stage staged, ← ordered.eraseDups_names_eq,
      ← names, interned.internAll_eraseDups]
  · obtain ⟨last, again⟩ := defined.exists_again ready
    have redefined := defined_of_defineAll (defined.ready ready) again
    exact ⟨last, run_eq_ok_iff.mpr ⟨.inl topLater, staging, staged, again, rfl⟩,
      defined.tableOf_again redefined, defined.local?_again redefined⟩

/-- The first library is selected twice. Installed in another order, the second one goes first and
stands at both ends; in the order of the selection, the repetition is left out. Both libraries offer
the same string. -/
theorem run_eq_installAll_repeated :
    let text : Value := .string 0 "s"
    let one : Library := ⟨"one", [⟨"x", text⟩, ⟨"y", .boolean true⟩]⟩
    let two : Library := ⟨"two", [⟨"z", .null⟩, ⟨"x", text⟩, ⟨"z", .null⟩]⟩
    let selection : Bootstrap := ⟨[.host one, .host two, .host one]⟩
    let store := (createGlobal {}).2
    let together := selection.run 0 store
    together.1 = .ok ⟨["one", "two", "one"], 3⟩ ∧
      (∃ last, Library.installAll [two, one, two] 0 store = (.ok (), last) ∧
        ∀ name, Alike name (together.2.lookupNamed 0 name) (last.lookupNamed 0 name)) ∧
      (∃ last, Library.installAll [one, two] 0 store = (.ok (), last) ∧
        last.tableOf 0 = together.2.tableOf 0) ∧
      (selection.run 0 together.2).1 = .ok ⟨["one", "two", "one"], 3⟩ := by
  intro text one two selection store together
  have reachable : store.Reachable := by
    have made : 0 < (createTable {}).2.tables.size := Nat.one_pos
    exact .tail (.single (.createTable {})) (.globalIn made)
  have success : together.1 = .ok ⟨["one", "two", "one"], 3⟩ := by decide +kernel
  have mixed (library : Library) : library ∈ [two, one, two] ↔ library ∈ selection.libraries := by
    change library ∈ [two, one, two] ↔ library ∈ [one, two, one]
    simp only [List.mem_cons, List.not_mem_nil, or_false]
    tauto
  have ordered : Library.InOrder selection.libraries [one, two] :=
    .skip List.mem_cons_self (.refl [one, two])
  obtain ⟨sequences, inOrder, last, again, _⟩ :=
    run_eq_installAll reachable Nat.one_pos rfl (Prod.ext success rfl)
  exact ⟨success, sequences _ mixed, inOrder _ ordered, by rw [again]⟩

end Bootstrap

end SchemeBase
