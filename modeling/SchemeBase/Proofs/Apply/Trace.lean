import SchemeBase.Proofs.Apply.Answers

/-! # Traces

The trace of an application has the calls that it makes by itself, in the order in which they are made
and each with the machine that it is made on. A call is made only if all calls before it have been
answered, so a trace ends with the first call that fails. How a step comes out depends on its calls
alone: they are all answered and the step concludes, or one of them fails and the step fails with it.
-/

namespace SchemeBase

variable {σ : Type} {executor : Executor σ} {calls before after : List Call} {call : Call}
  {machine middle later : Machine σ} {answer : Value} {answers : List Value} {error : EvalError}
  {start entry : Entry σ} {step : Step}

/-- Of calls that are made one after another, those before a call are answered, and that one fails. -/
def FailsAt (executor : Executor σ) (before : List Call) (call : Call) (machine : Machine σ)
    (error : EvalError) (later : Machine σ) : Prop :=
  ∃ answers middle, Answers executor before machine answers middle ∧
    executor.make call middle = (.error error, later)

namespace Executor

/-- The calls that are made when calls are made one after another until one fails, each with the
machine that it is made on. -/
def entries (executor : Executor σ) : List Call → Machine σ → List (Entry σ)
  | [], _ => []
  | call :: calls, machine =>
    (call, machine) ::
      match executor.make call machine with
      | (.ok _, later) => executor.entries calls later
      | (.error _, _) => []

/-- The calls that an application makes by itself. Only built-ins make any. -/
def trace (executor : Executor σ) : Entry σ → List (Entry σ)
  | ((.primitive (.builtin builtin), args), machine) =>
    match builtin.step? executor.table args with
    | some step => executor.entries step.calls machine
    | none => []
  | _ => []

theorem trace_of_rule {builtin : Builtin} {args : List Value}
    (rule : builtin.step? executor.table args = some step) (machine : Machine σ) :
    executor.trace ((.primitive (.builtin builtin), args), machine) =
      executor.entries step.calls machine := by
  rw [trace, rule]

theorem entries_cons_of_ok (first : executor.make call machine = (.ok answer, later)) :
    executor.entries (call :: calls) machine = (call, machine) :: executor.entries calls later := by
  rw [entries, first]

theorem entries_cons_of_error (first : executor.make call machine = (.error error, later)) :
    executor.entries (call :: calls) machine = [(call, machine)] := by
  rw [entries, first]

end Executor

/-! ## Calls one after another -/

/-- Either all calls are answered or one of them is the first to fail. -/
theorem answers_or_failsAt (executor : Executor σ) (calls : List Call) (machine : Machine σ) :
    (∃ answers later, Answers executor calls machine answers later) ∨
    ∃ before call after error later, calls = before ++ call :: after ∧
      FailsAt executor before call machine error later := by
  induction calls generalizing machine with
  | nil => exact .inl ⟨[], machine, .nil machine⟩
  | cons call calls ih =>
    rcases first : executor.make call machine with ⟨result, middle⟩
    cases result with
    | error cause => exact .inr ⟨[], call, calls, cause, middle, rfl, [], machine, .nil machine, first⟩
    | ok answer =>
      obtain ⟨answers, later, rest⟩ | ⟨before, other, after, error, later, rfl, answers, last, rest,
        failure⟩ := ih middle
      · exact .inl ⟨answer :: answers, later, .cons first rest⟩
      · exact .inr ⟨call :: before, other, after, error, later, rfl, answer :: answers, last,
          .cons first rest, failure⟩

theorem Answers.length_eq (answered : Answers executor calls machine answers later) :
    answers.length = calls.length := by
  induction answered with
  | nil => rfl
  | cons _ _ ih => rw [List.length_cons, List.length_cons, ih]

theorem Answers.mapM_eq (answered : Answers executor calls machine answers later) :
    calls.mapM executor.make machine = (.ok answers, later) := by
  induction answered with
  | nil => rfl
  | cons first _ ih =>
    rw [List.mapM_cons, EvalM.bind_ok _ first, EvalM.bind_ok _ ih]
    rfl

theorem Answers.entries_append (answered : Answers executor before machine answers middle)
    (after : List Call) :
    executor.entries (before ++ after) machine =
      executor.entries before machine ++ executor.entries after middle := by
  induction answered with
  | nil => rfl
  | cons first _ ih =>
    rw [List.cons_append, Executor.entries_cons_of_ok first, Executor.entries_cons_of_ok first, ih,
      List.cons_append]

/-- Calls that are all answered are all made. -/
theorem Answers.map_fst_entries (answered : Answers executor calls machine answers later) :
    (executor.entries calls machine).map Prod.fst = calls := by
  induction answered with
  | nil => rfl
  | cons first _ ih => rw [Executor.entries_cons_of_ok first, List.map_cons, ih]

theorem FailsAt.mapM_eq (fails : FailsAt executor before call machine error later)
    (after : List Call) :
    (before ++ call :: after).mapM executor.make machine = (.error error, later) := by
  obtain ⟨answers, middle, answered, failure⟩ := fails
  induction answered with
  | nil => rw [List.nil_append, List.mapM_cons, EvalM.bind_error _ failure]
  | cons first _ ih =>
    rw [List.cons_append, List.mapM_cons, EvalM.bind_ok _ first, EvalM.bind_error _ (ih failure)]

/-- No call is made after one that fails. -/
theorem FailsAt.map_fst_entries (fails : FailsAt executor before call machine error later)
    (after : List Call) :
    (executor.entries (before ++ call :: after) machine).map Prod.fst = before ++ [call] := by
  obtain ⟨answers, middle, answered, failure⟩ := fails
  rw [answered.entries_append, Executor.entries_cons_of_error failure, List.map_append,
    answered.map_fst_entries]
  rfl

/-- The call at a place is made when those before it have been answered, on the machine that they
leave. -/
theorem getElem?_entries {i : Nat} (found : (executor.entries calls machine)[i]? = some entry) :
    calls[i]? = some entry.1 ∧
      ∃ answers, Answers executor (calls.take i) machine answers entry.2 := by
  induction calls generalizing machine i with
  | nil => cases found
  | cons call calls ih =>
    cases i with
    | zero =>
      rw [Executor.entries, List.getElem?_cons_zero] at found
      cases found
      exact ⟨rfl, [], .nil machine⟩
    | succ i =>
      rcases first : executor.make call machine with ⟨result, later⟩
      cases result with
      | error cause =>
        rw [Executor.entries_cons_of_error first] at found
        cases found
      | ok answer =>
        rw [Executor.entries_cons_of_ok first, List.getElem?_cons_succ] at found
        obtain ⟨same, answers, rest⟩ := ih found
        exact ⟨same, answer :: answers, .cons first rest⟩

theorem mem_entries_iff : entry ∈ executor.entries calls machine ↔
    ∃ before after answers, calls = before ++ entry.1 :: after ∧
      Answers executor before machine answers entry.2 := by
  constructor
  · intro member
    obtain ⟨i, found⟩ := List.mem_iff_getElem?.mp member
    obtain ⟨same, answers, answered⟩ := getElem?_entries found
    obtain ⟨inside, read⟩ := List.getElem?_eq_some_iff.mp same
    have rest : calls.drop i = entry.1 :: calls.drop (i + 1) := by
      rw [List.drop_eq_getElem_cons inside, read]
    refine ⟨calls.take i, calls.drop (i + 1), answers, ?_, answered⟩
    rw [← rest, List.take_append_drop]
  · rintro ⟨before, after, answers, rfl, answered⟩
    rw [answered.entries_append, Executor.entries]
    exact List.mem_append_right _ List.mem_cons_self

/-- A call is on the trace of an application just when the application enters it. -/
theorem mem_trace_iff : entry ∈ executor.trace start ↔ Enters executor start entry := by
  constructor
  · intro member
    obtain ⟨⟨f, args⟩, machine⟩ := start
    unfold Executor.trace at member
    split at member
    · next builtin args machine same =>
      cases same
      split at member
      · next step rule =>
        obtain ⟨before, after, answers, split, answered⟩ := mem_entries_iff.mp member
        exact .rule rule split answered
      · cases member
    · cases member
  · rintro ⟨rule, split, answered⟩
    rw [Executor.trace_of_rule rule]
    exact mem_entries_iff.mpr ⟨_, _, _, split, answered⟩

/-! ## Steps -/

/-- If all calls of a step are answered, it concludes from the answers. -/
theorem Answers.perform_eq (answered : Answers executor step.calls machine answers later) :
    executor.perform step machine = step.conclude answers later := by
  rw [Executor.perform_eq, EvalM.bind_ok _ answered.mapM_eq]

/-- If a call of a step fails, the step fails in the same way and does nothing more. -/
theorem FailsAt.perform_eq (fails : FailsAt executor before call machine error later)
    (split : step.calls = before ++ call :: after) :
    executor.perform step machine = (.error error, later) := by
  rw [Executor.perform_eq, split, EvalM.bind_error _ (fails.mapM_eq after)]

/-- An application fails with the first call it makes that fails. -/
theorem make_of_failing_entry (member : entry ∈ executor.trace start)
    (failure : executor.make entry.1 entry.2 = (.error error, later)) :
    executor.make start.1 start.2 = (.error error, later) := by
  obtain ⟨rule, split, answered⟩ := mem_trace_iff.mp member
  rw [Executor.make, Executor.apply_builtin rule]
  exact FailsAt.perform_eq ⟨_, _, answered, failure⟩ split

end SchemeBase
