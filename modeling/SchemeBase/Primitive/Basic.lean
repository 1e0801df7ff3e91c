import SchemeBase.Primitive.Boolean
import SchemeBase.Primitive.Character
import SchemeBase.Primitive.Condition
import SchemeBase.Primitive.Procedure
import SchemeBase.Primitive.Symbol

/-! # Primitive procedures

A primitive is known by what it is and not by its name: a host may offer a primitive under the name
of a built-in one, and the two stay different.
-/

namespace SchemeBase

/-- A primitive of the built-in libraries. -/
inductive Builtin where
  | procedure (primitive : ProcedurePrimitive)
  | character (primitive : CharacterPrimitive)
  | condition (primitive : ConditionPrimitive)
  | symbol (primitive : SymbolPrimitive)
  | boolean (primitive : BooleanPrimitive)
deriving DecidableEq, Repr

namespace Builtin

/-- The name a built-in is bound to. -/
def name : Builtin → String
  | procedure primitive => primitive.name
  | character primitive => primitive.name
  | condition primitive => primitive.name
  | symbol primitive => primitive.name
  | boolean primitive => primitive.name

/-- The arguments a built-in takes. -/
def arity : Builtin → Arity
  | procedure primitive => primitive.arity
  | character primitive => primitive.arity
  | condition primitive => primitive.arity
  | symbol primitive => primitive.arity
  | boolean primitive => primitive.arity

end Builtin

/-- A primitive that a host supplies: its place in the host's table, its name and its arity. What
it does is up to whoever runs it. -/
structure HostPrimitive where
  slot : Nat
  name : String
  arity : Arity
deriving DecidableEq, Repr

/-- A primitive procedure. -/
inductive Primitive where
  | builtin (primitive : Builtin)
  | host (primitive : HostPrimitive)
deriving DecidableEq, Repr

namespace Primitive

/-- The name of a primitive. -/
def name : Primitive → String
  | builtin primitive => primitive.name
  | host primitive => primitive.name

/-- The arguments a primitive takes. -/
def arity : Primitive → Arity
  | builtin primitive => primitive.arity
  | host primitive => primitive.arity

end Primitive

end SchemeBase
