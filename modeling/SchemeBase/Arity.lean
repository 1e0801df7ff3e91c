import SchemeBase.Text.Record

/-! # Arities

How many arguments a procedure takes: a least number and, unless it takes any surplus, a greatest
one. A greatest number below the least is allowed and accepts no call.
-/

namespace SchemeBase

/-- The argument counts a procedure accepts; `max` is missing when there is no upper bound. -/
structure Arity where
  min : Nat
  max : Option Nat
deriving DecidableEq, Repr

namespace Arity

/-- Just `n` arguments. -/
def exactly (n : Nat) : Arity := ⟨n, some n⟩

/-- `n` or more arguments. -/
def atLeast (n : Nat) : Arity := ⟨n, none⟩

/-- From `min` to `max` arguments, both included. -/
def between (min max : Nat) : Arity := ⟨min, some max⟩

/-- Whether a call with `count` arguments is allowed. -/
def accepts (arity : Arity) (count : Nat) : Bool :=
  decide (arity.min ≤ count) && arity.max.all (count ≤ ·)

/-- The counts in words. -/
def text (arity : Arity) : String :=
  match arity.max with
  | none => "at least " ++ toString arity.min
  | some max =>
    if max = arity.min then toString max else toString arity.min ++ " to " ++ toString max

/-- The two bounds as a diagnostic shows them. -/
def diagnostic (arity : Arity) : String :=
  Text.record "Arity"
    [("min", toString arity.min), ("max", Text.optional (arity.max.map toString))] false

end Arity

end SchemeBase
