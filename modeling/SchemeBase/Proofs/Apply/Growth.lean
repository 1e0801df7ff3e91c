import SchemeBase.Proofs.Apply.Answers
import SchemeBase.Proofs.Store.Growth

/-! # What runs do to a store

Built-ins change a store only by interning and by allocation. So a step lets the store grow, apart
from the calls that it makes, and whatever relation between machines composes and holds where stores
grow leads through a whole run as soon as it leads through the lambdas and host primitives: from the
start to the end, from the start of a call to that of a call nested in it, and from the end of the
nested call to the end of the outer one.
-/

namespace SchemeBase

open Store

variable {σ : Type} {allowed : TableId → String → Prop} {table : TableId} {store : Store}

/-! ## Steps that finish -/

/-- If the step finishes, it does no more to a store than to let it grow. -/
def Step.GrowsFrom (allowed : TableId → String → Prop) (store : Store) (step : Step) : Prop :=
  ∀ action, step = .finish action → Grown allowed store (action store).2

namespace Step.GrowsFrom

theorem finish {action : StoreM EvalError Value} (grown : Grown allowed store (action store).2) :
    GrowsFrom allowed store (.finish action) := by
  rintro _ ⟨⟩
  exact grown

theorem answer (value : Value) : GrowsFrom allowed store (.answer value) :=
  finish .refl

theorem ofResult (result : Except EvalError Value) : GrowsFrom allowed store (.ofResult result) := by
  cases result <;> exact finish .refl

/-- A failed check leaves the store alone, so only the step behind the check matters. -/
theorem ofChecked {checked : Except EvalError Step}
    (each : ∀ step, checked = .ok step → GrowsFrom allowed store step) :
    GrowsFrom allowed store (.ofChecked checked) := by
  cases checked with
  | error => exact finish .refl
  | ok step => exact each step rfl

theorem ofChecked_map {α : Type} {checked : Except EvalError α} {next : α → Step}
    (each : ∀ contents, checked = .ok contents → GrowsFrom allowed store (next contents)) :
    GrowsFrom allowed store (.ofChecked (checked.map next)) := by
  refine ofChecked fun step success => ?_
  obtain ⟨contents, found, rfl⟩ := map_eq_ok_iff.mp success
  exact each contents found

end Step.GrowsFrom

theorem grown_allocate (store : Store) (count : Nat) :
    Grown allowed store (allocate count store).2 :=
  .single (.allocate store count)

theorem SymbolPrimitive.grown_spell (table : TableId) (symbol : Symbol) (store : Store) :
    Grown allowed store (spell table symbol store).2 := by
  rw [spell, StoreM.get_bind]
  cases (store.table table).resolve? symbol with
  | none => exact .refl
  | some spelling => exact grown_allocate store 1

theorem SymbolPrimitive.grown_internText {text : String}
    (may : ∀ symbol, (internIn table text store).1 = .ok symbol → allowed table text) :
    Grown allowed store (internText table text store).2 := by
  rw [internText_eq]
  cases answer : (internIn table text store).1 with
  | error cause => rw [internIn_of_error answer]
  | ok symbol => exact .single (.intern (may symbol answer))

namespace Step.GrowsFrom

theorem character {primitive : CharacterPrimitive} {args : List Value} {step : Step}
    (rule : primitive.step? args = some step) : GrowsFrom allowed store step := by
  unfold CharacterPrimitive.step? at rule
  split at rule <;> cases rule
  · exact answer _
  all_goals exact ofResult _

theorem boolean {primitive : BooleanPrimitive} {args : List Value} {step : Step}
    (rule : primitive.step? args = some step) : GrowsFrom allowed store step := by
  unfold BooleanPrimitive.step? at rule
  split at rule <;> cases rule
  all_goals first | exact answer _ | exact ofResult _

/-- Conditions are made and reports are written, but no symbol is. -/
theorem condition {primitive : ConditionPrimitive} {args : List Value} {step : Step}
    (rule : primitive.step? table args = some step) : GrowsFrom allowed store step := by
  unfold ConditionPrimitive.step? at rule
  split at rule <;> cases rule
  · exact finish (grown_allocate store 1)
  · exact finish .refl
  · exact answer _
  · exact ofChecked_map fun _ _ => finish (grown_allocate store 1)
  · exact ofChecked_map fun contents _ => finish (grown_allocate store contents.2.length)
  · exact finish (grown_allocate store 1)

theorem procedure {primitive : ProcedurePrimitive} {args : List Value} {step : Step}
    (rule : primitive.step? args = some step) : GrowsFrom allowed store step := by
  unfold ProcedurePrimitive.step? at rule
  split at rule <;> cases rule
  · exact answer _
  · refine ofChecked fun step success => ?_
    obtain ⟨_, items, _, rfl⟩ := ProcedurePrimitive.spread_eq_ok_iff.mp success
    exact nofun
  · exact ofChecked_map fun _ _ => nofun
  · exact ofChecked_map fun _ _ => nofun
  · exact ofChecked_map fun _ _ => finish (grown_allocate store 1)

/-- Only a string that `string->symbol` is given becomes a spelling. -/
theorem symbol {primitive : SymbolPrimitive} {args : List Value} {step : Step}
    (rule : primitive.step? table args = some step)
    (may : ∀ id text symbol, primitive = .ofText → args = [.string id text] →
      (internIn table text store).1 = .ok symbol → allowed table text) :
    GrowsFrom allowed store step := by
  unfold SymbolPrimitive.step? at rule
  split at rule <;> cases rule
  · exact answer _
  · exact ofChecked_map fun symbol _ => finish (SymbolPrimitive.grown_spell table symbol store)
  · next x =>
    refine ofChecked_map fun text found => finish (SymbolPrimitive.grown_internText fun symbol => ?_)
    have given : x.asText? = some text := requireArg_eq_ok_iff.mp found
    cases x with
    | string id =>
      cases given
      exact may id text symbol rfl rfl
    | _ => cases given
  · exact ofResult _

theorem builtin {builtin : Builtin} {args : List Value} {step : Step}
    (rule : builtin.step? table args = some step)
    (may : ∀ id text symbol, builtin = .symbol .ofText → args = [.string id text] →
      (internIn table text store).1 = .ok symbol → allowed table text) :
    GrowsFrom allowed store step := by
  cases builtin with
  | procedure primitive => exact procedure rule
  | character primitive => exact character rule
  | condition primitive => exact condition rule
  | boolean primitive => exact boolean rule
  | symbol primitive =>
    exact symbol rule fun id text symbol same => may id text symbol (congrArg Builtin.symbol same)

end Step.GrowsFrom

/-! ## Calls one after another -/

section Calls

variable {executor : Executor σ} {calls : List Call} {step : Step} {machine : Machine σ}

/-- What a step does besides its calls lets the store grow. -/
theorem grown_perform (finishes : step.GrowsFrom allowed machine.store) :
    Grown allowed (step.calls.mapM executor.make machine).2.store
      (executor.perform step machine).2.store := by
  rw [executor.perform_eq]
  rcases run : step.calls.mapM executor.make machine with ⟨result, later⟩
  cases result with
  | error cause =>
    rw [EvalM.bind_error _ run]
  | ok answers =>
    rw [EvalM.bind_ok _ run]
    cases step with
    | finish action =>
      cases run
      exact finishes action rfl
    | call => exact .refl
    | mapRows => exact grown_allocate later.store answers.length
    | visitRows => exact .refl

end Calls

/-- A relation between machines that leads from every machine to itself, composes, and leads wherever
stores grow. -/
structure Flows (R : Machine σ → Machine σ → Prop) : Prop where
  refl : ∀ machine, R machine machine
  trans : ∀ {machine middle later}, R machine middle → R middle later → R machine later
  grows : ∀ {machine later}, Grown anySpelling machine.store later.store → R machine later

namespace Flows

variable {executor : Executor σ} {R : Machine σ → Machine σ → Prop} {calls : List Call} {call : Call}
  {machine : Machine σ} (flows : Flows R)

include flows

/-- Calls one after another are led through if each of them is, wherever they end. -/
theorem mapM (each : ∀ call ∈ calls, ∀ machine, R machine (executor.make call machine).2)
    (machine : Machine σ) : R machine (calls.mapM executor.make machine).2 := by
  induction calls generalizing machine with
  | nil => exact flows.refl machine
  | cons call calls ih =>
    obtain ⟨start, others⟩ := List.forall_mem_cons.mp each
    have here := start machine
    rcases first : executor.make call machine with ⟨result, middle⟩
    rw [first] at here
    cases result with
    | error cause =>
      rw [List.mapM_cons, EvalM.bind_error _ first]
      exact here
    | ok answer =>
      rw [mapM_make_cons first]
      exact flows.trans here (ih others middle)

/-- The calls behind a call lead on from where it ends. -/
theorem mapM_cons (each : ∀ call ∈ calls, ∀ machine, R machine (executor.make call machine).2)
    (call : Call) (machine : Machine σ) :
    R (executor.make call machine).2 ((call :: calls).mapM executor.make machine).2 := by
  rcases first : executor.make call machine with ⟨result, middle⟩
  cases result with
  | error cause =>
    rw [List.mapM_cons, EvalM.bind_error _ first]
    exact flows.refl middle
  | ok answer =>
    rw [mapM_make_cons first]
    exact flows.mapM each middle

theorem perform {builtin : Builtin} {args : List Value} {step : Step}
    (rule : builtin.step? executor.table args = some step) (machine : Machine σ) :
    R (step.calls.mapM executor.make machine).2 (executor.perform step machine).2 :=
  flows.grows (grown_perform (.builtin rule fun _ _ _ _ _ _ => trivial))

/-- What leads through lambdas and host primitives leads through every call. -/
theorem make (lambdas : ∀ code args machine, R machine (executor.callLambda code args machine).2)
    (hosts : ∀ callee args machine, R machine (executor.callHost callee args machine).2)
    (call : Call) (machine : Machine σ) : R machine (executor.make call machine).2 := by
  obtain ⟨f, args⟩ := call
  change R machine (executor.apply f args machine).2
  induction f, args using call_induction executor.table generalizing machine with
  | step f args nested =>
    cases f with
    | primitive p =>
      cases p with
      | builtin builtin =>
        cases rule : builtin.step? executor.table args with
        | none =>
          rw [Executor.apply_builtin_eq_throw ((builtin.step?_eq_none_iff _).1 rule)]
          exact flows.refl machine
        | some step =>
          rw [Executor.apply_builtin rule]
          refine flows.trans (flows.mapM (fun call asked machine => ?_) machine)
            (flows.perform rule machine)
          exact nested call.1 call.2 (.rule rule asked) machine
      | host callee =>
        rw [Executor.apply]
        cases callee.arity.accepts args.length with
        | false => exact flows.refl machine
        | true => exact hosts callee args machine
    | lambda id code =>
      rw [Executor.apply]
      cases code.arity.accepts args.length with
      | false => exact flows.refl machine
      | true => exact lambdas code args machine
    | _ =>
      rw [Executor.apply_eq_throw rfl]
      exact flows.refl machine

/-- What leads through the calls that an application asks for leads from its start to the start of a
call that it enters, and from the end of that call to its own. -/
theorem enters {outer inner : Entry σ}
    (each : ∀ call, Issues executor.table outer.1 call → ∀ machine,
      R machine (executor.make call machine).2)
    (entered : Enters executor outer inner) :
    R outer.2 inner.2 ∧ R (executor.make inner.1 inner.2).2 (executor.make outer.1 outer.2).2 := by
  cases entered with
  | @rule builtin args step before after call machine later answers rule split answered =>
    have member (call : Call) (asked : call ∈ step.calls) (machine : Machine σ) :
        R machine (executor.make call machine).2 :=
      each call (.rule rule asked) machine
    rw [split] at member
    obtain ⟨earlier, others⟩ := List.forall_mem_append.mp member
    constructor
    · have start := flows.mapM earlier machine
      rwa [← before.append_nil, answered.mapM_append] at start
    · have rest := flows.mapM_cons (List.forall_mem_cons.mp others).2 call later
      rw [← answered.mapM_append, ← split] at rest
      change R (executor.make call later).2
        (executor.apply (.primitive (.builtin builtin)) args machine).2
      rw [Executor.apply_builtin rule]
      exact flows.trans rest (flows.perform rule machine)

end Flows

end SchemeBase
