import SchemeBase.Rules.Step
import SchemeBase.Value.Written

/-! # Rules of the error primitives

A condition takes its message from its first argument: the text of a string, and the written form
of any other value. Raising a condition reports its message followed by its irritants; raising
another value reports the value. The raised object itself travels with the error.
-/

namespace SchemeBase

/-- The message that a value gives a condition. -/
def conditionMessage (table : SymbolTable) (value : Value) : String :=
  match value.asText? with
  | some text => text
  | none => value.written table

/-- The report of a condition: its message and each irritant behind a space. -/
def conditionReport (table : SymbolTable) (message : String) (irritants : List Value) : String :=
  irritants.foldl (fun report irritant => irritant.writeAfter table (report ++ " ")) message

/-- The report of a raised value. -/
def raiseReport (table : SymbolTable) (payload : Value) : String :=
  match payload.asCondition? with
  | some (message, irritants) => conditionReport table message irritants
  | none => payload.writeAfter table "uncaught raise: "

namespace ConditionPrimitive

/-- Makes the condition that `error` signals and `make-condition` answers. -/
def build (table : TableId) (first : Value) (irritants : List Value) : StateM Store Value := do
  let store ← get
  Store.newCondition (conditionMessage (store.table table) first) irritants

/-- Fails with a raised value. -/
def signal (table : TableId) (payload : Value) : StoreM EvalError Value := do
  let store ← get
  throw (.raised (raiseReport (store.table table) payload) payload)

/-- A primitive of one condition. -/
def onCondition (primitive : ConditionPrimitive) (arg : Value)
    (f : String → List Value → StateM Store Value) : Step :=
  .ofChecked <| (requireArg primitive.name .condition Value.asCondition? 1 arg).map
    fun (message, irritants) => .finish (f message irritants)

/-- What an error primitive does; a wrong number of arguments has no rule. -/
def step? (table : TableId) : ConditionPrimitive → List Value → Option Step
  | error, first :: irritants =>
    some <| .finish do
      let condition ← build table first irritants
      signal table condition
  | raise, [x] => some (.finish (signal table x))
  | isErrorObject, [x] => some (.answer (.boolean x.asCondition?.isSome))
  | messageOf, [x] => some (onCondition messageOf x fun message _ => Store.newString message)
  | irritantsOf, [x] => some (onCondition irritantsOf x fun _ irritants => Store.newList irritants)
  | make, first :: irritants => some (.finish (build table first irritants))
  | _, _ => none

/-- There is a rule for just the argument counts that the arity accepts. -/
theorem isSome_step? (table : TableId) (primitive : ConditionPrimitive) (args : List Value) :
    (primitive.step? table args).isSome = primitive.arity.accepts args.length := by
  cases primitive <;> rcases args with _ | ⟨x, _ | ⟨y, _ | ⟨z, rest⟩⟩⟩ <;>
    simp [step?, arity, Arity.accepts, Arity.exactly, Arity.atLeast]

end ConditionPrimitive

end SchemeBase
