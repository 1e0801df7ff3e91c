import SchemeBase.Rules.Step

/-! # Rules of the procedure primitives

Three primitives apply a procedure: once to spread arguments, or to each row across several lists.
The procedure is checked before the lists. Rows end with the shortest list.

Each application that a rule asks for has arguments of smaller total size than those of the rule,
because the procedure is left out and lists are taken apart. Applying primitives to each other
therefore comes to an end.
-/

namespace SchemeBase

/-- The rows across lists: the first elements, then the second ones, as long as every list has
one. Without lists there are no rows. -/
def rowsAcross : List (List Value) → List (List Value)
  | [] => []
  | [items] => items.map ([·])
  | items :: lists => List.zipWith List.cons items (rowsAcross lists)

/-- A count as an integer value, at most the largest integer there is. -/
def countValue (n : Nat) : Value :=
  .integer (Int64.ofNat (min n 0x7FFFFFFFFFFFFFFF))

namespace ProcedurePrimitive

/-- The pair of an arity's bounds, false standing for a missing upper one. -/
def arityPair (arity : Arity) : StateM Store Value :=
  Store.newPair (countValue arity.min) ((arity.max.map countValue).getD (.boolean false))

/-- One application, to the leading arguments and the elements of the last one. -/
def spread (procedure : Value) (args : List Value) : Except EvalError Step := do
  let procedure ← requireProcedure apply.name 1 procedure
  let items ← requireList apply.name (args.length + 1) (args.getLast?.getD .null)
  return .call procedure (args.dropLast ++ items)

/-- The procedure and the rows for `map` and `for-each`. -/
def rowsFor (primitive : ProcedurePrimitive) (procedure : Value) (args : List Value) :
    Except EvalError (Value × List (List Value)) := do
  let procedure ← requireProcedure primitive.name 1 procedure
  let lists ← requireEach (requireList primitive.name) 2 args
  return (procedure, rowsAcross lists)

theorem spread_eq_ok_iff {procedure : Value} {args : List Value} {step : Step} :
    spread procedure args = .ok step ↔ procedure.isProcedure = true ∧
      ∃ items, (args.getLast?.getD .null).toList? = some items ∧
        step = .call procedure (args.dropLast ++ items) := by
  unfold spread
  simp only [bind_eq_ok_iff, requireProcedure_eq_ok_iff, requireList_eq_ok_iff, pure, Except.pure,
    Except.ok.injEq]
  grind

theorem rowsFor_eq_ok_iff {primitive : ProcedurePrimitive} {procedure f : Value}
    {args : List Value} {rows : List (List Value)} :
    rowsFor primitive procedure args = .ok (f, rows) ↔
      (procedure.isProcedure = true ∧ procedure = f) ∧
        ∃ lists, args.map Value.toList? = lists.map some ∧ rowsAcross lists = rows := by
  unfold rowsFor
  simp only [bind_eq_ok_iff, requireProcedure_eq_ok_iff, requireLists_eq_ok_iff, pure, Except.pure,
    Except.ok.injEq, Prod.mk.injEq]
  grind

/-- What a procedure primitive does; a wrong number of arguments has no rule. -/
def step? : ProcedurePrimitive → List Value → Option Step
  | isProcedure, [x] => some (.answer (.boolean x.isProcedure))
  | apply, procedure :: x :: rest => some (.ofChecked (spread procedure (x :: rest)))
  | map, procedure :: x :: rest =>
    some (.ofChecked ((rowsFor map procedure (x :: rest)).map fun (f, rows) => .mapRows f rows))
  | forEach, procedure :: x :: rest =>
    some (.ofChecked
      ((rowsFor forEach procedure (x :: rest)).map fun (f, rows) => .visitRows f rows))
  | arityOf, [x] =>
    some <| .ofChecked <|
      (requireArg arityOf.name .procedure Value.arity? 1 x).map fun arity =>
        .finish (arityPair arity)
  | _, _ => none

/-- There is a rule for just the argument counts that the arity accepts. -/
theorem isSome_step? (primitive : ProcedurePrimitive) (args : List Value) :
    (primitive.step? args).isSome = primitive.arity.accepts args.length := by
  cases primitive <;> rcases args with _ | ⟨x, _ | ⟨y, _ | ⟨z, rest⟩⟩⟩ <;>
    simp [step?, arity, Arity.accepts, Arity.exactly, Arity.atLeast]

end ProcedurePrimitive

end SchemeBase
