import Mathlib.Logic.Relation
import SchemeBase.Apply

/-! # Spreading a list of arguments

`apply` calls a procedure with some arguments and the elements of a list behind them. Where the
arguments are cut in two does not show: the call is the one of the procedure itself, under any
executor. A call of `apply` may again be made by `apply`, any number of times, and remains that call.
-/

namespace SchemeBase

open Value

variable {σ : Type} {executor : Executor σ} {p list : Value} {init items args wrapped : List Value}

/-- The primitive that spreads a list of arguments. -/
abbrev applyProcedure : Value := .primitive (.builtin (.procedure .apply))

theorem step?_apply (table : TableId) (callable : p.isProcedure = true)
    (spine : list.toList? = some items) :
    Builtin.step? table (.procedure .apply) (p :: (init ++ [list])) =
      some (.call p (init ++ items)) := by
  have spread : ProcedurePrimitive.spread p (init ++ [list]) = .ok (.call p (init ++ items)) := by
    refine ProcedurePrimitive.spread_eq_ok_iff.mpr ⟨callable, items, ?_, ?_⟩
    · rw [List.getLast?_concat, Option.getD_some, spine]
    · rw [List.dropLast_concat]
  obtain ⟨x, rest, same⟩ := List.exists_cons_of_ne_nil (List.concat_ne_nil list init)
  rw [same] at spread ⊢
  change some (Step.ofChecked (ProcedurePrimitive.spread p (x :: rest))) = _
  rw [spread]
  rfl

/-- Arguments that end in a list are spread. -/
theorem apply_applyProcedure (callable : p.isProcedure = true) (spine : list.toList? = some items) :
    executor.apply applyProcedure (p :: (init ++ [list])) = executor.apply p (init ++ items) := by
  rw [Executor.apply_builtin (step?_apply executor.table callable spine)]
  rfl

/-- Arguments of `apply` are handed to `apply` once more: it comes in front of them, and the last of
them is put into a list. -/
inductive Wraps : List Value → List Value → Prop
  | wrap {init : List Value} {last list : Value} (single : list.toList? = some [last]) :
      Wraps (init ++ [last]) (applyProcedure :: (init ++ [list]))

theorem Wraps.apply_eq (wraps : Wraps args wrapped) :
    executor.apply applyProcedure wrapped = executor.apply applyProcedure args := by
  cases wraps with
  | wrap single => exact apply_applyProcedure rfl single

/-- However the arguments of a procedure are cut in two, calling `apply` with the procedure, the first
part, and a list of the second one is calling the procedure with all of them: under every executor, and
on every machine, the outcome and the machine that is left are the same. That remains so however often
the call is wrapped into another one of `apply`. -/
theorem Executor.apply_spread (executor : Executor σ) (p : Value) (callable : p.isProcedure = true)
    (xs ys zs : List Value) (split : xs = ys ++ zs) (list : Value) (spine : list.toList? = some zs)
    (args : List Value) (wrapped : Relation.ReflTransGen Wraps (p :: (ys ++ [list])) args)
    (machine : Machine σ) :
    executor.apply applyProcedure args machine = executor.apply p xs machine := by
  induction wrapped with
  | refl => rw [apply_applyProcedure callable spine, split]
  | tail _ wraps ih => rw [wraps.apply_eq, ih]

/-- Two of three arguments are spread, and the call is wrapped twice: the list of the call becomes
the only element of a list, and that list of another one. -/
theorem Executor.apply_spread_twice :
    let three : Value := .primitive (.host ⟨0, "three", .exactly 3⟩)
    let spread : Value := listFrom 0 [.integer 2, .integer 3] .null
    let once : Value := listFrom 2 [spread] .null
    let twice : Value := listFrom 3 [once] .null
    let executor : Executor Nat :=
      { table := 0
        callLambda := fun _ _ => throw .requiresEvaluator
        callHost := fun _ args machine =>
          (.ok (.integer (Int64.ofNat args.length)), ⟨machine.store, machine.state + 1⟩) }
    three.isProcedure = true ∧ spread.toList? = some [.integer 2, .integer 3] ∧
      Relation.ReflTransGen Wraps [three, .integer 1, spread]
        [applyProcedure, applyProcedure, three, .integer 1, twice] ∧
      executor.apply applyProcedure [applyProcedure, applyProcedure, three, .integer 1, twice]
        ⟨{}, 0⟩ = (.ok (.integer 3), ⟨{}, 1⟩) := by
  intro three spread once twice executor
  have wrapped : Relation.ReflTransGen Wraps [three, .integer 1, spread]
      [applyProcedure, applyProcedure, three, .integer 1, twice] :=
    .tail (.single (@Wraps.wrap [three, .integer 1] spread once rfl))
      (@Wraps.wrap [applyProcedure, three, .integer 1] once twice rfl)
  refine ⟨rfl, rfl, wrapped, ?_⟩
  rw [executor.apply_spread three rfl _ [.integer 1] _ rfl spread rfl _ wrapped, apply]
  rfl

end SchemeBase
