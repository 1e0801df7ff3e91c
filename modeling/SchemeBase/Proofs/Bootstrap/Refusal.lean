import SchemeBase.Proofs.Bootstrap.Staging

/-! # Refused installations

An installation is refused for its environment, for a name, or for a collision. All three are
decided before the first name is interned, so a refusal leaves the store as it was, however many
libraries had been staged by then. Only a full shard, met while names are being defined, can end an
installation later, and it is no refusal.
-/

namespace SchemeBase

/-- Whether an error is decided before anything is defined. -/
def InstallError.IsRefusal : InstallError → Prop
  | invalidName .. => True
  | notGlobal _ => True
  | internFailed _ => False

/-- Whether an error is decided before anything is defined. -/
def BootstrapError.IsRefusal : BootstrapError → Prop
  | collision .. => True
  | install cause => cause.IsRefusal

variable {store : Store} {e : FrameId}

/-! ## The ways an installation ends -/

/-- A library is refused for its environment or for a name, or its bindings are defined in order as
far as there is room for their names. -/
theorem Library.install_cases (library : Library) (e : FrameId) (store : Store) :
    (store.isGlobal e = false ∧
      library.install e store = (.error (.notGlobal library.name), store)) ∨
    (store.isGlobal e = true ∧ ∃ name cause,
      library.checkNames = .error (.invalidName library.name name cause) ∧
      library.install e store = (.error (.invalidName library.name name cause), store)) ∨
    (store.isGlobal e = true ∧ library.checkNames = .ok () ∧ ∃ later,
      Store.defineAll e library.bindings store = (.ok (), later) ∧
      library.install e store = (.ok library.size, later)) ∨
    (store.isGlobal e = true ∧ library.checkNames = .ok () ∧ ∃ cause later,
      Store.defineAll e library.bindings store = (.error cause, later) ∧
      library.install e store = (.error (.internFailed cause), later)) := by
  unfold Library.install
  rw [StoreM.get_bind]
  cases store.isGlobal e with
  | false => exact .inl ⟨rfl, rfl⟩
  | true =>
    simp only [if_true]
    obtain ⟨_, checked⟩ | ⟨_, binding, _, cause, _, _, _, checked⟩ := library.checkNames_cases
    · have names : StoreM.ofExcept library.checkNames store = (.ok (), store) := by
        rw [checked]
        rfl
      rw [StoreM.bind_ok _ names]
      cases run : Store.defineAll e library.bindings store with
      | mk result later =>
        cases result with
        | ok _ =>
          rw [StoreM.bind_ok _ (StoreM.mapError_ok _ run)]
          exact .inr (.inr (.inl ⟨trivial, checked, later, rfl, rfl⟩))
        | error cause =>
          rw [StoreM.bind_error _ (StoreM.mapError_error _ run)]
          exact .inr (.inr (.inr ⟨trivial, checked, cause, later, rfl, rfl⟩))
    · have names : StoreM.ofExcept library.checkNames store =
          (.error (.invalidName library.name binding.name cause), store) := by
        rw [checked]
        rfl
      rw [StoreM.bind_error _ names]
      exact .inr (.inl ⟨trivial, binding.name, cause, checked, rfl⟩)

namespace Bootstrap

/-- What follows the look at the environment: a selection is refused while it is staged, or its
names are defined as far as there is room. -/
private theorem staged_cases (bootstrap : Bootstrap) (e : FrameId) (store : Store) :
    let body : StoreM BootstrapError BootstrapReport := do
      let staging ← StoreM.ofExcept (stage bootstrap.libraries)
      (Store.defineAll e staging.bindings.toList).mapError fun cause =>
        .install (.internFailed cause)
      return ⟨bootstrap.libraryNames, staging.bindings.size⟩
    (∃ error, stage bootstrap.libraries = .error error ∧ body store = (.error error, store)) ∨
    ∃ staging, stage bootstrap.libraries = .ok staging ∧
      ((∃ later, Store.defineAll e staging.bindings.toList store = (.ok (), later) ∧
        body store = (.ok ⟨bootstrap.libraryNames, staging.bindings.size⟩, later)) ∨
      ∃ cause later, Store.defineAll e staging.bindings.toList store = (.error cause, later) ∧
        body store = (.error (.install (.internFailed cause)), later)) := by
  intro body
  cases staged : stage bootstrap.libraries with
  | error error =>
    have refused : StoreM.ofExcept (stage bootstrap.libraries) store = (.error error, store) := by
      rw [staged]
      rfl
    exact .inl ⟨error, rfl, StoreM.bind_error _ refused⟩
  | ok staging =>
    have accepted : StoreM.ofExcept (stage bootstrap.libraries) store = (.ok staging, store) := by
      rw [staged]
      rfl
    refine .inr ⟨staging, rfl, ?_⟩
    cases run : Store.defineAll e staging.bindings.toList store with
    | mk result later =>
      cases result with
      | ok _ =>
        refine .inl ⟨later, rfl, (StoreM.bind_ok _ accepted).trans ?_⟩
        exact StoreM.bind_ok _ (StoreM.mapError_ok _ run)
      | error cause =>
        refine .inr ⟨cause, later, rfl, (StoreM.bind_ok _ accepted).trans ?_⟩
        exact StoreM.bind_error _ (StoreM.mapError_error _ run)

/-- A selection is refused for its environment, or while it is staged, or its names are defined as
far as there is room. The environment matters only if a library is selected. -/
theorem run_cases (bootstrap : Bootstrap) (e : FrameId) (store : Store) :
    (store.isGlobal e = false ∧ ∃ first others, bootstrap.libraries = first :: others ∧
      bootstrap.run e store = (.error (.install (.notGlobal first.name)), store)) ∨
    ((store.isGlobal e = true ∨ bootstrap.libraries = []) ∧
      ((∃ error, stage bootstrap.libraries = .error error ∧
        bootstrap.run e store = (.error error, store)) ∨
      ∃ staging, stage bootstrap.libraries = .ok staging ∧
        ((∃ later, Store.defineAll e staging.bindings.toList store = (.ok (), later) ∧
          bootstrap.run e store =
            (.ok ⟨bootstrap.libraryNames, staging.bindings.size⟩, later)) ∨
        ∃ cause later, Store.defineAll e staging.bindings.toList store = (.error cause, later) ∧
          bootstrap.run e store = (.error (.install (.internFailed cause)), later)))) := by
  have body := bootstrap.staged_cases e store
  unfold Bootstrap.run
  cases selected : bootstrap.libraries with
  | nil =>
    rw [selected] at body
    exact .inr ⟨.inr rfl, body⟩
  | cons first others =>
    rw [selected] at body
    simp only []
    rw [StoreM.get_bind]
    cases store.isGlobal e with
    | false => exact .inl ⟨rfl, first, others, rfl, rfl⟩
    | true => exact .inr ⟨.inl rfl, body⟩

/-- A run succeeds where its libraries are staged and what is staged is defined. -/
theorem run_eq_ok_iff {bootstrap : Bootstrap} {report : BootstrapReport} {later : Store} :
    bootstrap.run e store = (.ok report, later) ↔
      (store.isGlobal e = true ∨ bootstrap.libraries = []) ∧
      ∃ staging, stage bootstrap.libraries = .ok staging ∧
        Store.defineAll e staging.bindings.toList store = (.ok (), later) ∧
        report = ⟨bootstrap.libraryNames, staging.bindings.size⟩ := by
  obtain ⟨inner, first, others, selected, run⟩ |
      ⟨place, ⟨_, ends, run⟩ | ⟨staging, staged, ⟨_, defined, run⟩ | ⟨_, _, ends, run⟩⟩⟩ :=
    bootstrap.run_cases e store
  · rw [run]
    constructor
    · intro same
      cases same
    · rintro ⟨top | none, _⟩
      · cases inner.symm.trans top
      · cases selected.symm.trans none
  · rw [run, ends]
    constructor
    · intro same
      cases same
    · rintro ⟨_, _, same, _⟩
      cases same
  · rw [run, staged]
    constructor
    · intro same
      cases same
      exact ⟨place, staging, rfl, defined, rfl⟩
    · rintro ⟨_, _, same, again, rfl⟩
      cases same
      cases defined.symm.trans again
      rfl
  · rw [run, staged]
    constructor
    · intro same
      cases same
    · rintro ⟨_, _, same, again, _⟩
      cases same
      cases ends.symm.trans again

theorem Refused.isRefusal {libraries : List Library} {error : BootstrapError}
    (refused : Refused libraries error) : error.IsRefusal := by
  obtain ⟨_, _, _, _, _, fault⟩ := refused
  cases fault <;> trivial

theorem Refused.not_forall_sound {libraries : List Library} {error : BootstrapError}
    (refused : Refused libraries error) :
    ¬ ∀ library ∈ libraries, library.Sound (offersOf libraries) := by
  obtain ⟨before, library, after, split, _, fault⟩ := refused
  intro sound
  exact fault.not_sound (sound library (by rw [split]; simp))

end Bootstrap

/-! ## A refusal leaves no trace -/

theorem Bootstrap.run_unchanged {bootstrap : Bootstrap} {error : BootstrapError}
    (failure : (bootstrap.run e store).1 = .error error) (refusal : error.IsRefusal) :
    (bootstrap.run e store).2 = store := by
  obtain ⟨_, _, _, _, run⟩ | ⟨_, ⟨_, _, run⟩ | ⟨_, _, ⟨_, _, run⟩ | ⟨_, _, _, run⟩⟩⟩ :=
    bootstrap.run_cases e store
  · rw [run]
  · rw [run]
  · rw [run] at failure
    cases failure
  · rw [run] at failure
    cases failure
    exact refusal.elim

theorem Bootstrap.run_eq_notGlobal_iff {bootstrap : Bootstrap} {name : String} :
    (bootstrap.run e store).1 = .error (.install (.notGlobal name)) ↔
      store.isGlobal e = false ∧ ∃ first others, bootstrap.libraries = first :: others ∧
        first.name = name := by
  constructor
  · intro failure
    obtain ⟨inner, first, others, selected, run⟩ |
        ⟨_, ⟨fault, ends, run⟩ | ⟨_, _, ⟨_, _, run⟩ | ⟨_, _, _, run⟩⟩⟩ :=
      bootstrap.run_cases e store
    · rw [run] at failure
      cases failure
      exact ⟨inner, first, others, selected, rfl⟩
    · rw [run] at failure
      cases failure
      obtain ⟨_, _, accepted, _⟩ | ⟨_, ⟨_, _, _, _, _, refused⟩, again⟩ :=
        stage_cases bootstrap.libraries
      · cases ends.symm.trans accepted
      · cases ends.symm.trans again
        cases refused
    · rw [run] at failure
      cases failure
    · rw [run] at failure
      cases failure
  · rintro ⟨inner, first, others, selected, rfl⟩
    obtain ⟨_, _, _, same, run⟩ | ⟨top | none, _⟩ := bootstrap.run_cases e store
    · cases selected.symm.trans same
      rw [run]
    · cases inner.symm.trans top
    · cases selected.symm.trans none

theorem Library.install_unchanged {library : Library} {error : InstallError}
    (failure : (library.install e store).1 = .error error) (refusal : error.IsRefusal) :
    (library.install e store).2 = store := by
  obtain ⟨_, run⟩ | ⟨_, _, _, _, run⟩ | ⟨_, _, _, _, run⟩ | ⟨_, _, _, _, _, run⟩ :=
    library.install_cases e store
  · rw [run]
  · rw [run]
  · rw [run] at failure
    cases failure
  · rw [run] at failure
    cases failure
    exact refusal.elim

theorem Library.install_eq_notGlobal_iff {library : Library} {name : String} :
    (library.install e store).1 = .error (.notGlobal name) ↔
      store.isGlobal e = false ∧ library.name = name := by
  obtain ⟨inner, run⟩ | ⟨top, _, _, _, run⟩ | ⟨top, _, _, _, run⟩ | ⟨top, _, _, _, _, run⟩ :=
    library.install_cases e store
  · simp [run, inner]
  · simp [run, top]
  · simp [run, top]
  · simp [run, top]

/-- A built-in library is installed as any other, and the count is dropped. -/
theorem LibraryKind.install_eq (kind : LibraryKind) (e : FrameId) (store : Store) :
    kind.install e store =
      ((kind.library.install e store).1.map fun _ => (), (kind.library.install e store).2) := by
  change (kind.library.install e >>= fun _ => pure ()) store = _
  cases run : kind.library.install e store with
  | mk result later =>
    cases result with
    | ok _ => exact StoreM.bind_ok _ run
    | error _ => exact StoreM.bind_error _ run

theorem LibraryKind.install_eq_error_iff {kind : LibraryKind} {error : InstallError} :
    (kind.install e store).1 = .error error ↔ (kind.library.install e store).1 = .error error := by
  rw [install_eq]
  cases (kind.library.install e store).1 <;> simp [Except.map]

/-- A refused installation leaves the whole store as it was. The environment is looked at before all
else, and a bootstrap does so only if a library is selected. -/
theorem Store.unchanged_of_refusal (store : Store) (e : FrameId) :
    (∀ (bootstrap : Bootstrap) (error : BootstrapError),
      (bootstrap.run e store).1 = .error error → error.IsRefusal →
        (bootstrap.run e store).2 = store) ∧
    (∀ (library : Library) (error : InstallError),
      (library.install e store).1 = .error error → error.IsRefusal →
        (library.install e store).2 = store) ∧
    (∀ (kind : LibraryKind) (error : InstallError),
      (kind.install e store).1 = .error error → error.IsRefusal →
        (kind.install e store).2 = store) ∧
    (∀ (bootstrap : Bootstrap) (name : String),
      (bootstrap.run e store).1 = .error (.install (.notGlobal name)) ↔
        store.isGlobal e = false ∧ ∃ first others, bootstrap.libraries = first :: others ∧
          first.name = name) ∧
    (∀ (library : Library) (name : String),
      (library.install e store).1 = .error (.notGlobal name) ↔
        store.isGlobal e = false ∧ library.name = name) ∧
    ∀ (kind : LibraryKind) (name : String),
      (kind.install e store).1 = .error (.notGlobal name) ↔
        store.isGlobal e = false ∧ kind.name = name := by
  refine ⟨fun _ _ => Bootstrap.run_unchanged, fun _ _ => Library.install_unchanged, ?_,
    fun _ _ => Bootstrap.run_eq_notGlobal_iff, fun _ _ => Library.install_eq_notGlobal_iff, ?_⟩
  · intro kind error failure refusal
    rw [LibraryKind.install_eq]
    exact Library.install_unchanged (LibraryKind.install_eq_error_iff.mp failure) refusal
  · intro kind name
    rw [LibraryKind.install_eq_error_iff]
    exact Library.install_eq_notGlobal_iff

/-- A name with a blank in the second library undoes what was staged of the first. -/
theorem Store.unchanged_of_blank :
    let one : Library := ⟨"one", [⟨"x", .integer 1⟩]⟩
    let two : Library := ⟨"two", [⟨"z", .null⟩, ⟨"a b", .null⟩]⟩
    let store : Store := { tables := #[.create 0], frames := #[⟨0, none, {}⟩] }
    let outcome := Bootstrap.run ⟨[.host one, .host two]⟩ 0 store
    outcome.1 = .error (.install (.invalidName "two" "a b" (.whiteSpace 1))) ∧
      outcome.2 = store := by
  intro one two store outcome
  have failure : outcome.1 = .error (.install (.invalidName "two" "a b" (.whiteSpace 1))) := by
    rfl
  exact ⟨failure, (store.unchanged_of_refusal 0).1 _ _ failure trivial⟩

end SchemeBase
