import SchemeBase.Arity

/-! # Primitives on procedures

The procedure predicate, the arity of a procedure, and the three primitives that apply a procedure
they are given.
-/

namespace SchemeBase

/-- The primitives of the procedure library. -/
inductive ProcedurePrimitive where
  | isProcedure
  | apply
  | map
  | forEach
  | arityOf
deriving DecidableEq, Repr

namespace ProcedurePrimitive

/-- The primitives in binding order. -/
def all : List ProcedurePrimitive := [isProcedure, apply, map, forEach, arityOf]

/-- The name a primitive is bound to. -/
def name : ProcedurePrimitive → String
  | isProcedure => "procedure?"
  | apply => "apply"
  | map => "map"
  | forEach => "for-each"
  | arityOf => "procedure-arity"

/-- The arguments a primitive takes. -/
def arity : ProcedurePrimitive → Arity
  | isProcedure | arityOf => .exactly 1
  | apply | map | forEach => .atLeast 2

end ProcedurePrimitive

end SchemeBase
