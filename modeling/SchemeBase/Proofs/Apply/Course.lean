import SchemeBase.Evaluator
import SchemeBase.Proofs.Apply.Growth
import SchemeBase.Proofs.Apply.Trace
import SchemeBase.Proofs.Value.Sharing

/-! # The course of a run

While a program runs, the store changes, calls are made, and the executor keeps its own records. A
number of an allocation is never given back by this, provided that lambdas and host primitives give
none back, as it is with the small evaluator. So one can tell from the numbers what came before what:
all that is allocated in a call has higher numbers than all that was allocated before it, and lower
ones than what is allocated after it, also where the later allocation belongs to an outer call.
-/

namespace SchemeBase

open Store

variable {σ α β : Type}

/-! ## Numbers that are not given back -/

/-- However a computation ends, it gives no number of an allocation back. -/
def EvalM.Conserves (computation : EvalM σ α) : Prop :=
  ∀ machine, machine.store.nextIdentity ≤ (computation machine).2.store.nextIdentity

/-- Neither lambdas nor host primitives give a number of an allocation back. -/
structure Executor.Conserves (executor : Executor σ) : Prop where
  lambdas : ∀ code args, (executor.callLambda code args).Conserves
  hosts : ∀ callee args, (executor.callHost callee args).Conserves

theorem nextIdentity_le_of_grown {store later : Store} (run : Grown anySpelling store later) :
    store.nextIdentity ≤ later.nextIdentity := by
  induction run with
  | refl => exact Nat.le_refl _
  | tail _ growth ih =>
    cases growth with
    | intern => exact ih
    | allocate => exact Nat.le_add_right_of_le ih

/-- The order of numbers leads wherever stores grow. -/
theorem flows_nextIdentity : Flows fun machine later : Machine σ =>
    machine.store.nextIdentity ≤ later.store.nextIdentity where
  refl _ := Nat.le_refl _
  trans := Nat.le_trans
  grows := nextIdentity_le_of_grown

theorem Executor.Conserves.make {executor : Executor σ} (conserves : executor.Conserves)
    (call : Call) : (executor.make call).Conserves :=
  flows_nextIdentity.make conserves.lambdas conserves.hosts call

/-! ## From machine to machine -/

/-- A program goes on: the executor changes its own state, the store changes, or a call is made. -/
inductive Moves (executor : Executor σ) : Machine σ → Machine σ → Prop
  | state (store : Store) (before after : σ) : Moves executor ⟨store, before⟩ ⟨store, after⟩
  | change {store later : Store} (change : Change store later) (state : σ) :
      Moves executor ⟨store, state⟩ ⟨later, state⟩
  | call (call : Call) (machine : Machine σ) : Moves executor machine (executor.make call machine).2

/-- A program comes from one machine to another. -/
abbrev Continues (executor : Executor σ) : Machine σ → Machine σ → Prop :=
  Relation.ReflTransGen (Moves executor)

/-- A call is made in the course of another one: while a call is made that the other makes by
itself. -/
def During (executor : Executor σ) (outer inner : Entry σ) : Prop :=
  ∃ entry, Enters executor outer entry ∧ Continues executor entry.2 inner.2 ∧
    Continues executor (executor.make inner.1 inner.2).2 (executor.make entry.1 entry.2).2

variable {executor : Executor σ} {machine later : Machine σ} {outer inner : Entry σ}

theorem Moves.nextIdentity_le (conserves : executor.Conserves)
    (move : Moves executor machine later) : machine.store.nextIdentity ≤ later.store.nextIdentity := by
  cases move with
  | state => exact Nat.le_refl _
  | change change => exact change.nextIdentity_le
  | call call => exact conserves.make call machine

theorem Continues.nextIdentity_le (conserves : executor.Conserves)
    (continues : Continues executor machine later) :
    machine.store.nextIdentity ≤ later.store.nextIdentity := by
  induction continues with
  | refl => exact Nat.le_refl _
  | tail _ move ih => exact ih.trans (move.nextIdentity_le conserves)

theorem continues_of_grown {store later : Store} (run : Grown anySpelling store later) (state : σ) :
    Continues executor ⟨store, state⟩ ⟨later, state⟩ := by
  induction run with
  | refl => exact .refl
  | @tail middle _ _ growth ih =>
    cases growth with
    | @intern id text =>
      rcases Nat.lt_or_ge id middle.tables.size with made | missing
      · exact ih.tail (.change (.intern made text) state)
      · rwa [internIn_of_le missing]
    | allocate count => exact ih.tail (.change (.allocate middle count) state)

theorem continues_make (executor : Executor σ) (call : Call) (machine : Machine σ) :
    Continues executor machine (executor.make call machine).2 :=
  .single (.call call machine)

theorem flows_continues : Flows (Continues executor) where
  refl _ := .refl
  trans := .trans
  grows {machine later} run :=
    (continues_of_grown run machine.state).tail (.state later.store machine.state later.state)

/-- Calls that are all answered lead to the machine that they leave, -/
theorem Answers.continues {calls : List Call} {answers : List Value}
    (answered : Answers executor calls machine answers later) : Continues executor machine later := by
  have run : Continues executor machine (calls.mapM executor.make machine).2 :=
    flows_continues.mapM (fun call _ => continues_make executor call) machine
  rwa [answered.mapM_eq] at run

/-- and so does each of them from where it ends. -/
theorem Answers.continues_of_entry {calls : List Call} {answers : List Value} {entry : Entry σ}
    (answered : Answers executor calls machine answers later)
    (member : entry ∈ executor.entries calls machine) :
    Continues executor (executor.make entry.1 entry.2).2 later := by
  obtain ⟨before, after, _, rfl, first⟩ := mem_entries_iff.mp member
  have rest : Continues executor (executor.make entry.1 entry.2).2
      ((entry.1 :: after).mapM executor.make entry.2).2 :=
    flows_continues.mapM_cons (fun call _ => continues_make executor call) entry.1 entry.2
  rwa [← first.mapM_append, answered.mapM_eq] at rest

/-- A nested call starts after the outer one and ends before it. -/
theorem Reaches.continues (reached : Reaches executor outer inner) :
    Continues executor outer.2 inner.2 ∧
      Continues executor (executor.make inner.1 inner.2).2 (executor.make outer.1 outer.2).2 := by
  induction reached using Relation.ReflTransGen.head_induction_on with
  | refl => exact ⟨.refl, .refl⟩
  | head entered _ ih =>
    obtain ⟨start, rest⟩ :=
      flows_continues.enters (fun call _ => continues_make executor call) entered
    exact ⟨start.trans ih.1, ih.2.trans rest⟩

/-- A call that is nested in another one, however deep, is made in its course. -/
theorem during_of_nested (nested : Relation.TransGen (Enters executor) outer inner) :
    During executor outer inner := by
  obtain ⟨entry, entered, reached⟩ := Relation.TransGen.head'_iff.mp nested
  exact ⟨entry, entered, Reaches.continues reached⟩

/-! ## The small evaluator -/

section Conserving

variable {computation : EvalM σ α} {next : α → EvalM σ β}

theorem EvalM.Conserves.pure (value : α) : (Pure.pure value : EvalM σ α).Conserves :=
  fun _ => Nat.le_refl _

theorem EvalM.Conserves.bind (first : computation.Conserves)
    (rest : ∀ answer, (next answer).Conserves) : (computation >>= next).Conserves := by
  intro machine
  have start := first machine
  rcases run : computation machine with ⟨result, middle⟩
  rw [run] at start
  cases result with
  | error cause => rwa [EvalM.bind_error _ run]
  | ok answer =>
    rw [EvalM.bind_ok _ run]
    exact start.trans (rest answer middle)

/-- The same for steps in a store that cannot fail. -/
def Store.Conserves (action : StateM Store α) : Prop :=
  ∀ store, store.nextIdentity ≤ (action store).2.nextIdentity

theorem Store.Conserves.bind {action : StateM Store α} {next : α → StateM Store β}
    (first : Conserves action) (rest : ∀ answer, Conserves (next answer)) :
    Conserves (action >>= next) :=
  fun store => (first store).trans (rest (action store).1 (action store).2)

theorem Store.conserves_forIn {γ : Type} {body : γ → β → StateM Store (ForInStep β)}
    (each : ∀ item state, Conserves (body item state)) (items : List γ) (state : β) :
    Conserves (forIn items state body) := by
  induction items generalizing state with
  | nil => exact fun _ => Nat.le_refl _
  | cons item items ih =>
    rw [List.forIn_cons]
    refine (each item state).bind fun step => ?_
    cases step with
    | done state => exact fun _ => Nat.le_refl _
    | yield state => exact ih state

end Conserving

namespace Evaluator

theorem conserves_enter (code : Lambda) (args : List Value) : Store.Conserves (enter code args) := by
  have started : Store.Conserves (child code.frame) := fun _ => Nat.le_refl _
  have defined (e : FrameId) (symbol : Symbol) (value : Value) :
      Store.Conserves (modify fun store => store.define e symbol value) := fun _ => Nat.le_refl _
  have done {γ : Type} (answer : γ) : Store.Conserves (pure answer) := fun _ => Nat.le_refl _
  refine started.bind fun e => .bind (Store.conserves_forIn (fun item _ => ?_) _ _) fun _ => ?_
  · exact (defined e item.1 item.2).bind fun _ => done _
  · cases code.rest with
    | none => exact done e
    | some rest =>
      have surplus : Store.Conserves (newList (args.drop code.params.length)) :=
        fun _ => Nat.le_add_right ..
      exact surplus.bind fun list => (defined e rest list).bind fun _ => done e

variable {executor : Executor σ}

/-- Evaluation makes calls, and otherwise only reads. -/
theorem conserves_eval (conserves : executor.Conserves) (e : FrameId) : ∀ datum : Value,
    (eval executor e datum).Conserves ∧ (evalOperands executor e datum).Conserves
  | .pair id car cdr => by
    obtain ⟨first, _⟩ := conserves_eval conserves e car
    obtain ⟨_, rest⟩ := conserves_eval conserves e cdr
    rw [eval, evalOperands]
    constructor
    · split
      · exact first.bind fun f => rest.bind fun args => conserves.make (f, args)
      · exact .pure _
    · exact first.bind fun value => rest.bind fun values => .pure _
  | .symbol symbol => by
    rw [eval, evalOperands]
    · exact ⟨fun _ => Nat.le_refl _, .pure _⟩
    · nofun
  | .null | .unspecified | .boolean _ | .char _ | .integer _ | .marker _ | .primitive _ | .string .. |
    .lambda .. | .condition .. => by
    rw [eval, evalOperands] <;> first | exact ⟨.pure _, .pure _⟩ | nofun

/-- The small evaluator gives no number back if the host primitives give none back. -/
theorem conserves_executor (table : TableId)
    (callHost : HostPrimitive → List Value → EvalM CallLog Value)
    (hosts : ∀ callee args, (callHost callee args).Conserves) (depth : Nat) :
    (Evaluator.executor table callHost depth).Conserves := by
  induction depth with
  | zero => exact ⟨fun _ _ _ => Nat.le_refl _, hosts⟩
  | succ depth ih =>
    refine ⟨fun code args => ?_, hosts⟩
    have recorded : (record table args).Conserves := fun _ => Nat.le_refl _
    have entered : (EvalM.ofStore (enter code args) : EvalM CallLog FrameId).Conserves :=
      fun machine => conserves_enter code args machine.store
    exact recorded.bind fun _ => entered.bind fun e => (conserves_eval ih e code.body).1

end Evaluator

end SchemeBase
