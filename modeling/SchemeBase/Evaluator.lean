import SchemeBase.Apply
import SchemeBase.Value.Written

/-! # A small evaluator

An executor with just enough of an evaluator to run lambdas: a symbol stands for its value, a
proper list is an application, evaluated from left to right, and every other datum stands for
itself. Each call of a lambda adds its written arguments to a log. Calls nest at most to a given
depth, and below it the executor has no evaluator.
-/

namespace SchemeBase

/-- The written arguments of the lambda calls so far, in order. -/
abbrev CallLog := Array String

namespace Evaluator

variable {σ : Type}

mutual

/-- The value of a datum in an environment. -/
def eval (executor : Executor σ) (e : FrameId) : Value → EvalM σ Value
  | .symbol symbol => EvalM.ofStore fun store => (store.lookup e symbol, store)
  | .pair id car cdr => do
    if cdr.toList?.isSome then
      let procedure ← eval executor e car
      let args ← evalOperands executor e cdr
      executor.apply procedure args
    else
      return .pair id car cdr
  | datum => return datum

/-- The values along a spine, from left to right. -/
def evalOperands (executor : Executor σ) (e : FrameId) : Value → EvalM σ (List Value)
  | .pair _ car cdr => do
    let value ← eval executor e car
    let values ← evalOperands executor e cdr
    return value :: values
  | _ => return []

end

/-- Makes the frame in which a lambda runs: each parameter has its argument, and the rest
parameter, defined last, the list of the surplus. -/
def enter (code : Lambda) (args : List Value) : StateM Store FrameId := do
  let e ← Store.child code.frame
  for (param, arg) in code.params.zip args do
    modify (·.define e param arg)
  if let some rest := code.rest then
    let surplus ← Store.newList (args.drop code.params.length)
    modify (·.define e rest surplus)
  return e

/-- Logs the arguments of a call. -/
def record (table : TableId) (args : List Value) : EvalM CallLog Unit := do
  let table ← EvalM.table table
  EvalM.modifyState (·.push ((Value.listFrom 0 args .null).written table))

/-- The evaluator as an executor, for lambda calls that nest to a given depth. -/
def executor (table : TableId) (callHost : HostPrimitive → List Value → EvalM CallLog Value) :
    Nat → Executor CallLog
  | 0 => .withoutEvaluator table callHost
  | depth + 1 =>
    { table := table
      callLambda := fun code args => do
        record table args
        let e ← EvalM.ofStore (enter code args)
        eval (executor table callHost depth) e code.body
      callHost := callHost }

end Evaluator

end SchemeBase
