import Mathlib.Algebra.Group.Nat.Defs
import SchemeBase.Collector
import SchemeBase.Proofs.Apply.Gate

/-! # The arity that a program sees

A program can ask a procedure for the bounds on its number of arguments. It is told integers, and a
bound beyond the largest integer is told as that one. The check before a call compares the bounds as they
are. Both come to the same for every count below the largest integer, since such a count lies on the
same side of a bound that does not fit and of the integer that stands for it.
-/

namespace SchemeBase

open Value

variable {σ : Type}

/-! ## Bounds as integers -/

/-- A count below the largest integer compares with a bound as with the integer that it is told as. -/
theorem exists_countValue (n : Nat) : ∃ bound : Int64, countValue n = .integer bound ∧
    ∀ count : Nat, count < 2 ^ 63 - 1 →
      (bound.toInt ≤ count ↔ n ≤ count) ∧ ((count : Int) ≤ bound.toInt ↔ count ≤ n) := by
  have fits : min n 0x7FFFFFFFFFFFFFFF < 2 ^ 63 := by omega
  refine ⟨_, rfl, fun count below => ?_⟩
  rw [Int64.toInt_ofNat_of_lt fits]
  omega

/-- A count lies between bounds as a program is told them, where false is no upper bound. -/
def Admits (lo : Int64) (hi : Value) (count : Nat) : Prop :=
  lo.toInt ≤ count ∧ (hi = .boolean false ∨ ∃ max, hi = .integer max ∧ (count : Int) ≤ max.toInt)

/-- The pair that is told of an arity describes the counts that the arity accepts. -/
theorem ProcedurePrimitive.exists_arityPair (arity : Arity) : ∃ lo hi,
    arityPair arity = Store.newPair (.integer lo) hi ∧
      (hi = .boolean false ∨ ∃ max, hi = .integer max) ∧
      ∀ count < 2 ^ 63 - 1, Admits lo hi count ↔ arity.accepts count = true := by
  obtain ⟨least, most⟩ := arity
  obtain ⟨lo, told, compares⟩ := exists_countValue least
  unfold arityPair
  rw [told]
  cases most with
  | none =>
    refine ⟨lo, .boolean false, rfl, .inl rfl, fun count below => ?_⟩
    rw [Admits, (compares count below).1, Arity.accepts, Bool.and_eq_true, decide_eq_true_iff]
    exact and_congr_right fun _ => iff_of_true (.inl rfl) rfl
  | some most =>
    obtain ⟨hi, toldToo, comparesToo⟩ := exists_countValue most
    refine ⟨lo, .integer hi, ?_, .inr ⟨hi, rfl⟩, fun count below => ?_⟩
    · rw [Option.map_some, toldToo, Option.getD_some]
    · rw [Admits, (compares count below).1, Arity.accepts, Bool.and_eq_true, decide_eq_true_iff,
        Option.all_some, decide_eq_true_iff, ← (comparesToo count below).2]
      refine and_congr_right fun _ => ⟨?_, fun inside => .inr ⟨hi, rfl, inside⟩⟩
      rintro (⟨⟨⟩⟩ | ⟨_, ⟨⟩, inside⟩)
      exact inside

/-! ## Past the check -/

theorem Value.exists_arity? {f : Value} (procedure : f.isProcedure = true) :
    ∃ arity, f.arity? = some arity := by
  cases f with
  | primitive p => exact ⟨_, rfl⟩
  | lambda id code => exact ⟨_, rfl⟩
  | _ => cases procedure

theorem Value.exists_signature? {f : Value} {arity : Arity} (known : f.arity? = some arity)
    (table : SymbolTable) : ∃ name, f.signature? table = some (name, arity) := by
  cases f with
  | primitive p =>
    cases known
    exact ⟨_, rfl⟩
  | lambda id code =>
    cases known
    exact ⟨_, rfl⟩
  | _ => cases known

/-- A call that is recorded does not leave the log as it was. -/
theorem EvalM.recording_ne {call : Handed} {computation : EvalM σ Value}
    {result : Except EvalError Value} {machine : Machine σ} {log : List Handed} :
    computation.recording call (machine.logging log) ≠ (result, machine.logging log) := by
  intro same
  have logs : log ++ [call] = log := congrArg (fun outcome => outcome.2.state.2) same
  exact List.cons_ne_nil _ _ (List.append_right_eq_self.mp logs)

namespace Executor

variable {executor : Executor σ}

/-- A call gets past the check of its number of arguments: a built-in carries out the step of its rule,
and of a host primitive or a lambda the executor is handed the call. -/
inductive Runs (executor : Executor σ) : Value → List Value → Prop
  | builtin {builtin : Builtin} {args : List Value} {step : Step}
      (rule : builtin.step? executor.table args = some step)
      (performs : executor.apply (.primitive (.builtin builtin)) args = executor.perform step) :
      Runs executor (.primitive (.builtin builtin)) args
  | host {callee : HostPrimitive} {args : List Value}
      (handed : executor.logged.apply (.primitive (.host callee)) args =
        (executor.callHost callee args).recording (.host callee args)) :
      Runs executor (.primitive (.host callee)) args
  | lambda {id : Identity} {code : Lambda} {args : List Value}
      (handed : executor.logged.apply (.lambda id code) args =
        (executor.callLambda code args).recording (.lambda code args)) :
      Runs executor (.lambda id code) args

/-- The check compares the number of arguments with the bounds as they are. -/
theorem runs_iff {f : Value} {arity : Arity} (known : f.arity? = some arity) (args : List Value)
    (machine : Machine σ) : executor.Runs f args ↔ arity.accepts args.length = true := by
  obtain ⟨name, signed⟩ := f.exists_signature? known (machine.store.table executor.table)
  constructor
  · intro runs
    by_contra refused
    rw [Bool.not_eq_true] at refused
    have stopped : executor.logged.apply f args (machine.logging []) =
        (.error (.arityMismatch name arity args.length), machine.logging []) :=
      apply_of_refused signed refused
    cases runs with
    | @builtin builtin _ step rule _ =>
      cases known
      have none := (builtin.step?_eq_none_iff executor.table).mpr refused
      cases none.symm.trans rule
    | host handed =>
      rw [handed] at stopped
      exact EvalM.recording_ne stopped
    | lambda handed =>
      rw [handed] at stopped
      exact EvalM.recording_ne stopped
  · intro accepted
    cases f with
    | primitive p =>
      cases known
      cases p with
      | builtin builtin =>
        obtain ⟨step, rule⟩ := Option.isSome_iff_exists.mp
          ((builtin.isSome_step? executor.table args).trans accepted)
        exact .builtin rule (apply_builtin rule)
      | host callee =>
        have gate : callee.arity.accepts args.length = true := accepted
        refine .host ?_
        rw [apply, if_pos gate]
        rfl
    | lambda id code =>
      cases known
      refine .lambda ?_
      rw [apply, if_pos accepted]
      rfl
    | _ => cases known

end Executor

/-- The primitive that tells a program the arity of a procedure. -/
abbrev arityProcedure : Value := .primitive (.builtin (.procedure .arityOf))

namespace Executor

/-- A program that asks for the arity of a procedure is told a new pair of an integer and an integer
or false. Of every number of arguments below the largest integer it can read from the pair whether
calls with so many get past the check, whatever the bounds are: also bounds that are larger than any
integer, and bounds that no count lies between. A call that does not is the error that names the
procedure, and nothing else happens. -/
theorem apply_arityOf (executor : Executor σ) {f : Value} (procedure : f.isProcedure = true)
    (machine : Machine σ) :
    ∃ lo hi, executor.apply arityProcedure [f] machine =
        (.ok (.pair machine.store.nextIdentity (.integer lo) hi),
          ⟨(Store.allocate 1 machine.store).2, machine.state⟩) ∧
      (hi = .boolean false ∨ ∃ max, hi = .integer max) ∧
      ∀ args : List Value, args.length < 2 ^ 63 - 1 →
        (executor.Runs f args ↔ Admits lo hi args.length) ∧
        (¬ Admits lo hi args.length → ∃ name arity,
          f.signature? (machine.store.table executor.table) = some (name, arity) ∧
          executor.apply f args machine =
            (.error (.arityMismatch name arity args.length), machine)) := by
  obtain ⟨arity, known⟩ := f.exists_arity? procedure
  obtain ⟨name, signed⟩ := f.exists_signature? known (machine.store.table executor.table)
  obtain ⟨lo, hi, told, shape, admits⟩ := ProcedurePrimitive.exists_arityPair arity
  have rule : Builtin.step? executor.table (.procedure .arityOf) [f] =
      some (.finish (ProcedurePrimitive.arityPair arity)) := by
    have read : requireArg ProcedurePrimitive.arityOf.name .procedure Value.arity? 1 f = .ok arity :=
      requireArg_eq_ok_iff.mpr known
    change some (Step.ofChecked (Except.map _ (requireArg _ _ _ _ _))) = _
    rw [read]
    rfl
  refine ⟨lo, hi, ?_, shape, fun args below => ?_⟩
  · rw [apply_of_finish rule, told]
    rfl
  · have same := admits args.length below
    refine ⟨(runs_iff known args machine).trans same.symm, fun outside => ?_⟩
    rw [same, Bool.not_eq_true] at outside
    exact ⟨name, arity, signed, apply_of_refused signed outside⟩

/-- A host primitive that takes 2⁶⁴ - 1 arguments is told to take as many as the largest integer, and a
call with three is refused. -/
theorem apply_arityOf_huge :
    let huge : Value := .primitive (.host ⟨5, "host-huge", .exactly 0xFFFFFFFFFFFFFFFF⟩)
    let executor : Executor Unit := .withoutEvaluator 0 Collector.call
    let start : Machine Unit := ⟨{}, ()⟩
    let args : List Value := [.null, .null, .null]
    huge.isProcedure = true ∧ args.length < 2 ^ 63 - 1 ∧
      executor.apply arityProcedure [huge] start =
        (.ok (.pair 0 (.integer 0x7FFFFFFFFFFFFFFF) (.integer 0x7FFFFFFFFFFFFFFF)),
          ⟨(Store.allocate 1 {}).2, ()⟩) ∧
      ¬ executor.Runs huge args ∧
      executor.apply huge args start =
        (.error (.arityMismatch "host-huge" (.exactly 0xFFFFFFFFFFFFFFFF) 3), start) := by
  intro huge executor start args
  have told : executor.apply arityProcedure [huge] start =
      (.ok (.pair 0 (.integer 0x7FFFFFFFFFFFFFFF) (.integer 0x7FFFFFFFFFFFFFFF)),
        ⟨(Store.allocate 1 {}).2, ()⟩) := by
    rw [apply_of_finish rfl]
    rfl
  have few : args.length < 2 ^ 63 - 1 := by decide
  obtain ⟨lo, hi, answer, _, reads⟩ := executor.apply_arityOf (f := huge) rfl start
  obtain ⟨runs, refused⟩ := reads args few
  cases told.symm.trans answer
  have outside : ¬ Admits 0x7FFFFFFFFFFFFFFF (.integer 0x7FFFFFFFFFFFFFFF) args.length :=
    fun inside => absurd inside.1 (by decide)
  obtain ⟨name, arity, signed, failure⟩ := refused outside
  cases signed
  exact ⟨rfl, few, told, mt runs.mp outside, failure⟩

end Executor

end SchemeBase
