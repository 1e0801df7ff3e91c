import SchemeBase.Rules.Step
import SchemeBase.Value.Equality

/-! # Rules of the boolean primitives

Values without an allocation have no identity beyond their contents, so the finest equivalence
predicate is the one on allocations. The boolean comparison checks every argument, also those
after a difference.
-/

namespace SchemeBase.BooleanPrimitive

/-- Whether all elements are the first one. -/
def allSame {α : Type} [BEq α] : List α → Bool
  | [] => true
  | first :: rest => rest.all (· == first)

/-- What a boolean primitive does; a wrong number of arguments has no rule. -/
def step? : BooleanPrimitive → List Value → Option Step
  | not, [x] => some (.answer (.boolean !x.isTrue))
  | isBoolean, [x] => some (.answer (.boolean x.asBoolean?.isSome))
  | eq, [x, y] => some (.answer (.boolean (x.eqv y)))
  | eqv, [x, y] => some (.answer (.boolean (x.eqv y)))
  | equal, [x, y] => some (.answer (.boolean (x.equal y)))
  | sameBoolean, x :: y :: rest =>
    some <| .ofResult do
      let values ← requireEach (requireArg sameBoolean.name .boolean Value.asBoolean?) 1 (x :: y :: rest)
      return .boolean (allSame values)
  | _, _ => none

/-- There is a rule for just the argument counts that the arity accepts. -/
theorem isSome_step? (primitive : BooleanPrimitive) (args : List Value) :
    (primitive.step? args).isSome = primitive.arity.accepts args.length := by
  cases primitive <;> rcases args with _ | ⟨x, _ | ⟨y, _ | ⟨z, rest⟩⟩⟩ <;>
    simp [step?, arity, Arity.accepts, Arity.exactly, Arity.atLeast]

end SchemeBase.BooleanPrimitive
