import SchemeBase.Proofs.Apply.Nesting

/-! # Calls one after another

A built-in that asks for calls has them made in order, each on the machine that the last one left,
until one fails. Whatever built-in it is, its step is then the same: make the calls, and conclude
from their answers. So which calls a run makes, and on which machines, is a relation between calls on
machines.
-/

namespace SchemeBase

variable {σ : Type} {executor : Executor σ} {calls before after : List Call} {call : Call}
  {machine middle later : Machine σ} {answer : Value} {answers : List Value}

namespace Executor

/-- Makes a call. -/
def make (executor : Executor σ) (call : Call) : EvalM σ Value :=
  executor.apply call.1 call.2

end Executor

/-- What a step comes to when its calls have been answered. -/
def Step.conclude : Step → List Value → EvalM σ Value
  | .finish action, _ => EvalM.ofStore action
  | .call _ _, answers => return answers.headD .unspecified
  | .mapRows _ _, answers => EvalM.ofStore (Store.newList answers)
  | .visitRows _ _, _ => return .unspecified

/-- Calls that are made one after another are all answered. -/
inductive Answers (executor : Executor σ) : List Call → Machine σ → List Value → Machine σ → Prop
  | nil (machine : Machine σ) : Answers executor [] machine [] machine
  | cons {call : Call} {calls : List Call} {machine middle later : Machine σ} {answer : Value}
      {answers : List Value} (first : executor.make call machine = (.ok answer, middle))
      (rest : Answers executor calls middle answers later) :
      Answers executor (call :: calls) machine (answer :: answers) later

/-- Once a call is answered, the calls behind it decide the machine. -/
theorem mapM_make_cons (first : executor.make call machine = (.ok answer, middle)) :
    ((call :: calls).mapM executor.make machine).2 = (calls.mapM executor.make middle).2 := by
  rw [List.mapM_cons, EvalM.bind_ok _ first]
  rcases rest : calls.mapM executor.make middle with ⟨result, later⟩
  cases result with
  | error cause => rw [EvalM.bind_error _ rest]
  | ok answers =>
    rw [EvalM.bind_ok _ rest]
    rfl

theorem Answers.mapM_append (answered : Answers executor before machine answers middle)
    (after : List Call) :
    ((before ++ after).mapM executor.make machine).2 = (after.mapM executor.make middle).2 := by
  induction answered with
  | nil => rfl
  | cons first rest ih => exact (mapM_make_cons first).trans ih

/-- Going through items for their effects drops the answers of going through them. -/
theorem forM_discard {α β : Type} (items : List α) (act : α → EvalM σ β) :
    (items.forM fun item => discard (act item)) = discard (items.mapM act) := by
  induction items with
  | nil => rfl
  | cons item items ih =>
    simp only [List.forM_eq_forM, List.forM_cons, List.mapM_cons] at ih ⊢
    rw [ih]
    simp only [discard, Functor.discard, map_const, Function.comp_def, map_eq_pure_bind,
      bind_assoc, pure_bind]

/-- A step makes its calls and concludes from the answers. -/
theorem Executor.perform_eq (executor : Executor σ) (step : Step) :
    executor.perform step = step.calls.mapM executor.make >>= step.conclude := by
  cases step with
  | finish action => rfl
  | call f request =>
    simp [perform, Step.calls, Step.conclude, Executor.make]
  | mapRows f rows =>
    simp only [perform, Step.calls, List.mapM_map]
    rfl
  | visitRows f rows =>
    simp only [perform, Step.calls, List.mapM_map, forM_discard]
    change _ = rows.mapM (executor.apply f) >>= fun _ => pure Value.unspecified
    simp only [discard, Functor.discard, map_const, Function.comp_def, map_eq_pure_bind,
      bind_assoc, pure_bind]

/-! ## Calls that a run makes -/

/-- A call together with the machine that it is made on. -/
abbrev Entry (σ : Type) := Call × Machine σ

/-- A call makes another one: the rule of its built-in asks for it, and the calls that the rule asks
for before it have been answered. -/
inductive Enters (executor : Executor σ) : Entry σ → Entry σ → Prop
  | rule {builtin : Builtin} {args : List Value} {step : Step} {before after : List Call}
      {call : Call} {machine later : Machine σ} {answers : List Value}
      (rule : builtin.step? executor.table args = some step)
      (split : step.calls = before ++ call :: after)
      (answered : Answers executor before machine answers later) :
      Enters executor ((.primitive (.builtin builtin), args), machine) (call, later)

/-- One call is made in the course of another. -/
abbrev Reaches (executor : Executor σ) : Entry σ → Entry σ → Prop :=
  Relation.ReflTransGen (Enters executor)

theorem Enters.issues {outer inner : Entry σ} (entered : Enters executor outer inner) :
    Issues executor.table outer.1 inner.1 := by
  cases entered with
  | rule rule split _ =>
    refine .rule rule ?_
    rw [split]
    exact List.mem_append_right _ List.mem_cons_self

end SchemeBase
