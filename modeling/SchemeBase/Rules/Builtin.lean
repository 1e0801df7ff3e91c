import SchemeBase.Rules.Boolean
import SchemeBase.Rules.Character
import SchemeBase.Rules.Condition
import SchemeBase.Rules.Procedure
import SchemeBase.Rules.Symbol

/-! # Rules of the built-in primitives

The rules of all families together. A built-in has a rule for just the argument counts that its
arity accepts, so the absence of a rule is an error about the number of arguments.
-/

namespace SchemeBase.Builtin

/-- What a built-in does with its arguments, reading and interning symbols in a given table. -/
def step? (table : TableId) : Builtin → List Value → Option Step
  | procedure primitive => primitive.step?
  | character primitive => primitive.step?
  | condition primitive => primitive.step? table
  | symbol primitive => primitive.step? table
  | boolean primitive => primitive.step?

/-- There is a rule for just the argument counts that the arity accepts. -/
theorem isSome_step? (table : TableId) (builtin : Builtin) (args : List Value) :
    (builtin.step? table args).isSome = builtin.arity.accepts args.length := by
  cases builtin with
  | procedure primitive => exact primitive.isSome_step? args
  | character primitive => exact primitive.isSome_step? args
  | condition primitive => exact primitive.isSome_step? table args
  | symbol primitive => exact primitive.isSome_step? table args
  | boolean primitive => exact primitive.isSome_step? args

theorem step?_eq_none_iff (builtin : Builtin) (table : TableId) {args : List Value} :
    builtin.step? table args = none ↔ builtin.arity.accepts args.length = false := by
  rw [← builtin.isSome_step? table, Option.isSome_eq_false_iff, Option.isNone_iff_eq_none]

end SchemeBase.Builtin
