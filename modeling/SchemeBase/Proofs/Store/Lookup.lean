import SchemeBase.Proofs.Store.Definition

/-! # Looking up names

In a global environment the lookup of a name goes through one table and one frame. After
definitions it gives the last value that was defined under the name, and else what it gave before,
whatever symbols the names were given.
-/

namespace SchemeBase.Store

variable {store later : Store} {e : FrameId} {bindings : List Binding}

/-- The value that a frame itself gives a name. -/
def named? (store : Store) (e : FrameId) (name : String) : Option Value :=
  ((store.tableOf e).get? name).bind (store.local? e)

theorem chain_of_isGlobal (top : store.isGlobal e = true) : store.chain e = [e] :=
  chain_of_outermost (Option.isNone_iff_eq_none.mp top)

theorem lookup?_of_isGlobal (top : store.isGlobal e = true) (symbol : Symbol) :
    store.lookup? e symbol = store.local? e symbol := by
  rw [lookup?, chain_of_isGlobal top, List.findSome?_singleton]

/-- A name without a value is reported as it was asked for. -/
theorem lookupNamed_eq (valid : (store.tableOf e).WellFormed) (name : String) :
    store.lookupNamed e name = match ((store.tableOf e).get? name).bind (store.lookup? e) with
      | some value => .ok value
      | none => .error (.unboundVariable name) := by
  unfold lookupNamed
  cases found : (store.tableOf e).get? name with
  | none => rfl
  | some symbol =>
    have spelled : (store.tableOf e).spelling symbol = name :=
      SymbolTable.spelling_of_resolve? (valid.get?_eq_some_iff.mp found)
    cases value : store.lookup? e symbol <;>
      simp only [Option.bind_some, lookup, value, unbound, spelled]

theorem lookupNamed_of_isGlobal (top : store.isGlobal e = true)
    (valid : (store.tableOf e).WellFormed) (name : String) :
    store.lookupNamed e name = match store.named? e name with
      | some value => .ok value
      | none => .error (.unboundVariable name) := by
  rw [lookupNamed_eq valid, funext (lookup?_of_isGlobal top), named?]

namespace Defined

theorem isGlobal (defined : Defined e bindings store later) (top : store.isGlobal e = true) :
    later.isGlobal e = true := by
  unfold Store.isGlobal at top ⊢
  rw [defined.parent, top]

/-- A symbol that spells none of the names is bound as it was. -/
theorem local?_of_unnamed (defined : Defined e bindings store later)
    (valid : (store.tableOf e).WellFormed) {symbol : Symbol}
    (unnamed : ∀ name ∈ bindings.map Binding.name, (later.tableOf e).get? name ≠ some symbol) :
    later.local? e symbol = store.local? e symbol := by
  have nothing : ((later.tableOf e).resolve? symbol).bind (lastValue? bindings) = none := by
    cases read : (later.tableOf e).resolve? symbol with
    | none => rfl
    | some spelling =>
      rw [Option.bind_some, lastValue?_eq_none_iff]
      have named := (defined.wellFormed valid).get?_eq_some_iff.mpr read
      exact fun listed => unnamed spelling listed named
  rw [defined.local?, nothing, Option.none_or]

/-- A name has its last defined value, or else the value it had. -/
theorem named? (defined : Defined e bindings store later) (valid : (store.tableOf e).WellFormed)
    (name : String) :
    later.named? e name = (lastValue? bindings name).or (store.named? e name) := by
  have validLater := defined.wellFormed valid
  obtain ⟨_, _, run⟩ := defined.interns
  unfold Store.named?
  cases now : (later.tableOf e).get? name with
  | none =>
    have unknown := (defined.isSome_get?_iff name).not.mp (by rw [now]; exact Bool.false_ne_true)
    obtain ⟨old, absent⟩ := not_or.mp unknown
    rw [Option.not_isSome_iff_eq_none] at old
    rw [lastValue?_eq_none_iff.mpr absent, old]
    rfl
  | some symbol =>
    rw [Option.bind_some, defined.local?, validLater.get?_eq_some_iff.mp now, Option.bind_some]
    cases before : (store.tableOf e).get? name with
    | some known =>
      -- A name keeps its symbol.
      cases (run.extension.get? _ _ before).symm.trans now
      rw [Option.bind_some]
    | none =>
      -- A new name is a defined one, so that a stray binding of its symbol does not show.
      have new : lastValue? bindings name ≠ none := by
        rw [Ne, lastValue?_eq_none_iff, not_not]
        have known := (defined.isSome_get?_iff name).mp (by rw [now]; rfl)
        rw [before] at known
        exact known.resolve_left Bool.false_ne_true
      obtain ⟨value, last⟩ := Option.ne_none_iff_exists'.mp new
      rw [last, Option.some_or, Option.some_or]

/-- The frame binds what it bound, the symbols of defined names that the table had, and every symbol
that the table has gained. -/
theorem isSome_local?_iff (defined : Defined e bindings store later)
    (valid : (store.tableOf e).WellFormed) (symbol : Symbol) :
    (later.local? e symbol).isSome ↔ (store.local? e symbol).isSome ∨
      (∃ name ∈ bindings.map Binding.name, (store.tableOf e).resolve? symbol = some name) ∨
      (store.tableOf e).resolve? symbol = none ∧ ((later.tableOf e).resolve? symbol).isSome := by
  have validLater := defined.wellFormed valid
  obtain ⟨_, _, run⟩ := defined.interns
  have last (name : String) : (lastValue? bindings name).isSome ↔
      name ∈ bindings.map Binding.name := by
    rw [← not_iff_not, Option.not_isSome_iff_eq_none, lastValue?_eq_none_iff]
  rw [defined.local?, Option.isSome_or, Bool.or_eq_true, or_comm]
  refine or_congr_right ?_
  cases before : (store.tableOf e).resolve? symbol with
  | some name =>
    rw [run.extension.resolve? valid validLater before, Option.bind_some, last]
    simp
  | none =>
    cases now : (later.tableOf e).resolve? symbol with
    | none => simp
    | some name =>
      have unknown := run.extension.get?_eq_none valid validLater before now
      have known := (defined.isSome_get?_iff name).mp
        (by rw [validLater.get?_eq_some_iff.mpr now]; rfl)
      rw [unknown] at known
      rw [Option.bind_some, last]
      simp [known.resolve_left Bool.false_ne_true]

end Defined

end SchemeBase.Store
