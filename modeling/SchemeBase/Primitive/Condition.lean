import SchemeBase.Arity

/-! # Primitives on conditions

Making error objects, signaling them or any other object, and taking an error object apart.
-/

namespace SchemeBase

/-- The primitives of the error library. -/
inductive ConditionPrimitive where
  | error
  | raise
  | isErrorObject
  | messageOf
  | irritantsOf
  | make
deriving DecidableEq, Repr

namespace ConditionPrimitive

/-- The primitives in binding order. -/
def all : List ConditionPrimitive := [error, raise, isErrorObject, messageOf, irritantsOf, make]

/-- The name a primitive is bound to. -/
def name : ConditionPrimitive → String
  | error => "error"
  | raise => "raise"
  | isErrorObject => "error-object?"
  | messageOf => "error-object-message"
  | irritantsOf => "error-object-irritants"
  | make => "make-condition"

/-- The arguments a primitive takes. -/
def arity : ConditionPrimitive → Arity
  | error | make => .atLeast 1
  | raise | isErrorObject | messageOf | irritantsOf => .exactly 1

end ConditionPrimitive

end SchemeBase
