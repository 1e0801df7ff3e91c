import SchemeBase.Rules.Size
import SchemeBase.Store.Environment

/-! # Application

Applying a procedure to arguments. A built-in carries out its rule, lambdas and host primitives go
to an executor once the number of arguments is checked, and no other value can be applied. The
executor may keep a state of its own beside the store, and decides what lambdas do.

Built-ins that apply procedures do so through the same executor. Each of their requests is smaller
than their own arguments, so application is a total function whenever the executor is.
-/

namespace SchemeBase

/-- The store together with the state of an executor. -/
structure Machine (σ : Type) where
  store : Store
  state : σ

/-- A computation of an executor with state `σ`. -/
abbrev EvalM (σ α : Type) := ExceptT EvalError (StateM (Machine σ)) α

namespace EvalM

variable {σ α : Type}

/-- Carries out a step in the store. -/
def ofStore (step : StoreM EvalError α) : EvalM σ α := fun ⟨store, state⟩ =>
  let (result, store) := step store
  (result, ⟨store, state⟩)

/-- Changes the state of the executor. -/
def modifyState (f : σ → σ) : EvalM σ Unit := fun ⟨store, state⟩ =>
  (.ok (), ⟨store, f state⟩)

/-- The table with a given number, as it is now. -/
def table (id : TableId) : EvalM σ SymbolTable := fun machine =>
  (.ok (machine.store.table id), machine)

theorem bind_ok {β : Type} {computation : EvalM σ α} {machine later : Machine σ} {answer : α}
    (next : α → EvalM σ β) (run : computation machine = (.ok answer, later)) :
    (computation >>= next) machine = next answer later := by
  change (ExceptT.bindCont next (computation machine).1) (computation machine).2 = _
  rw [run]
  rfl

theorem bind_error {β : Type} {computation : EvalM σ α} {machine later : Machine σ}
    {error : EvalError} (next : α → EvalM σ β) (run : computation machine = (.error error, later)) :
    (computation >>= next) machine = (.error error, later) := by
  change (ExceptT.bindCont next (computation machine).1) (computation machine).2 = _
  rw [run]
  rfl

end EvalM

/-- What built-ins need from whoever runs them: the table in which symbols are interned and
spelled, and what lambdas and host primitives do with arguments of an accepted number. -/
structure Executor (σ : Type) where
  table : TableId
  callLambda : Lambda → List Value → EvalM σ Value
  callHost : HostPrimitive → List Value → EvalM σ Value

namespace Executor

variable {σ : Type}

/-- An executor without an evaluator: applying a lambda fails. -/
def withoutEvaluator (table : TableId)
    (callHost : HostPrimitive → List Value → EvalM σ Value) : Executor σ where
  table := table
  callLambda _ _ := throw .requiresEvaluator
  callHost := callHost

/-- What a lambda is called in an error about its arguments. -/
def lambdaName (table : SymbolTable) (code : Lambda) : String :=
  match code.name with
  | some name => table.spelling name
  | none => "#<procedure>"

/-- Applies a procedure to arguments. -/
def apply (executor : Executor σ) (procedure : Value) (args : List Value) : EvalM σ Value :=
  match procedure with
  | .primitive (.builtin builtin) =>
    match _rule : builtin.step? executor.table args with
    | none => throw (.arityMismatch builtin.name builtin.arity args.length)
    | some (.finish action) => EvalM.ofStore action
    | some (.call f request) => executor.apply f request
    | some (.mapRows f rows) => do
      let answers ← rows.attach.mapM fun ⟨row, _⟩ => executor.apply f row
      EvalM.ofStore (Store.newList answers)
    | some (.visitRows f rows) => do
      rows.attach.forM fun ⟨row, _⟩ => discard (executor.apply f row)
      return .unspecified
  | .primitive (.host host) =>
    if host.arity.accepts args.length then executor.callHost host args
    else throw (.arityMismatch host.name host.arity args.length)
  | .lambda _ code =>
    if code.arity.accepts args.length then executor.callLambda code args
    else do
      let table ← EvalM.table executor.table
      throw (.arityMismatch (lambdaName table code) code.arity args.length)
  | other => throw (.notCallable other.type)
termination_by Value.totalSize args
decreasing_by
  · exact Builtin.totalSize_requests _rule (List.mem_singleton.2 rfl)
  · next mem => exact Builtin.totalSize_requests _rule mem
  · next mem => exact Builtin.totalSize_requests _rule mem

/-- What a step of a built-in amounts to under an executor. -/
def perform (executor : Executor σ) : Step → EvalM σ Value
  | .finish action => EvalM.ofStore action
  | .call f request => executor.apply f request
  | .mapRows f rows => do
    let answers ← rows.mapM (executor.apply f)
    EvalM.ofStore (Store.newList answers)
  | .visitRows f rows => do
    rows.forM fun row => discard (executor.apply f row)
    return .unspecified

/-- A built-in with a rule performs the step of that rule. -/
theorem apply_builtin {executor : Executor σ} {builtin : Builtin} {args : List Value} {step : Step}
    (rule : builtin.step? executor.table args = some step) :
    executor.apply (.primitive (.builtin builtin)) args = executor.perform step := by
  rw [apply]
  split
  · next none => simp [none] at rule
  · next found =>
    obtain rfl := Option.some.inj (found.symm.trans rule)
    rfl
  · next found =>
    obtain rfl := Option.some.inj (found.symm.trans rule)
    rfl
  · next f rows found =>
    obtain rfl := Option.some.inj (found.symm.trans rule)
    have attached : (rows.attach.map Subtype.val).mapM (executor.apply f) = _ := List.mapM_map
    rw [List.attach_map_subtype_val] at attached
    simp only [perform, attached, Function.comp_def]
  · next f rows found =>
    obtain rfl := Option.some.inj (found.symm.trans rule)
    have attached : (rows.attach.map Subtype.val).forM
        (fun row => (discard (executor.apply f row) : EvalM σ Unit)) = _ := List.forM_map
    rw [List.attach_map_subtype_val] at attached
    simp only [perform, attached]
    rfl

theorem apply_of_finish {executor : Executor σ} {builtin : Builtin} {args : List Value}
    {action : StoreM EvalError Value}
    (rule : builtin.step? executor.table args = some (.finish action)) (machine : Machine σ) :
    executor.apply (.primitive (.builtin builtin)) args machine = EvalM.ofStore action machine := by
  rw [apply_builtin rule]
  rfl

/-- Only procedures can be applied. -/
theorem apply_eq_throw {executor : Executor σ} {value : Value} {args : List Value}
    (other : value.isProcedure = false) :
    executor.apply value args = throw (.notCallable value.type) := by
  cases value with
  | primitive | lambda => cases other
  | _ => rw [apply] <;> nofun

/-- A built-in without a rule fails over the number of its arguments. -/
theorem apply_builtin_eq_throw {executor : Executor σ} {builtin : Builtin} {args : List Value}
    (refused : builtin.arity.accepts args.length = false) :
    executor.apply (.primitive (.builtin builtin)) args =
      throw (.arityMismatch builtin.name builtin.arity args.length) := by
  have none := (builtin.step?_eq_none_iff executor.table).2 refused
  rw [apply]
  split <;> simp_all

end Executor

end SchemeBase
