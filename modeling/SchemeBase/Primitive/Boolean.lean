import SchemeBase.Arity

/-! # Primitives on booleans

Negation, the boolean predicate, and the equivalence predicates with the boolean comparison. Every
value but false counts as true.
-/

namespace SchemeBase

/-- The primitives of the boolean library. -/
inductive BooleanPrimitive where
  | not
  | isBoolean
  | eq
  | eqv
  | equal
  | sameBoolean
deriving DecidableEq, Repr

namespace BooleanPrimitive

/-- The primitives in binding order. -/
def all : List BooleanPrimitive := [not, isBoolean, eq, eqv, equal, sameBoolean]

/-- The name a primitive is bound to. -/
def name : BooleanPrimitive → String
  | not => "not"
  | isBoolean => "boolean?"
  | eq => "eq?"
  | eqv => "eqv?"
  | equal => "equal?"
  | sameBoolean => "boolean=?"

/-- The arguments a primitive takes. -/
def arity : BooleanPrimitive → Arity
  | not | isBoolean => .exactly 1
  | eq | eqv | equal => .exactly 2
  | sameBoolean => .atLeast 2

end BooleanPrimitive

end SchemeBase
