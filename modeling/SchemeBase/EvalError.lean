import SchemeBase.Symbol.Table
import SchemeBase.Value.Basic

/-! # Evaluation errors

Every way in which a lookup or an application can fail, by cause. Positions of arguments count from
one. A raised error carries the object that was raised, for a handler to inspect.
-/

namespace SchemeBase

/-- Why a lookup or an application failed. -/
inductive EvalError where
  /-- No frame of the chain binds the name. -/
  | unboundVariable (name : String)
  | arityMismatch (name : String) (expected : Arity) (got : Nat)
  | typeMismatch (name : String) (position : Nat) (expected got : ValueType)
  | improperList (name : String) (position : Nat)
  | notCallable (type : ValueType)
  /-- The table at hand did not issue the symbol. -/
  | foreignSymbol (name : String) (symbol : Symbol)
  | invalidCharCode (code : Int64)
  /-- A lambda was applied where no evaluator is at hand. -/
  | requiresEvaluator
  | raised (text : String) (payload : Value)
  /-- A new spelling found its shard full. -/
  | internFailed (cause : InternError)

namespace EvalError

/-- The wording of each error. -/
def message : EvalError → String
  | unboundVariable name => "unbound variable: " ++ name
  | arityMismatch name expected got =>
    name ++ ": expected " ++ expected.text ++ " argument(s), got " ++ toString got
  | typeMismatch name position expected got =>
    name ++ ": argument " ++ toString position ++ " must be of type " ++ expected.name ++
      ", got " ++ got.name
  | improperList name position =>
    name ++ ": argument " ++ toString position ++ " must be a proper list"
  | notCallable type => "cannot apply a " ++ type.name
  | foreignSymbol name symbol =>
    name ++ ": " ++ symbol.placeholder ++ " belongs to another symbol table"
  | invalidCharCode code =>
    "integer->char: " ++ toString code.toInt ++ " is not a Unicode scalar value"
  | requiresEvaluator => "applying a lambda requires an evaluator"
  | raised text _ => text
  | internFailed cause => cause.message

end EvalError

end SchemeBase
