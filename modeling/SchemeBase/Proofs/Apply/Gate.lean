import SchemeBase.Proofs.Apply.Nesting

/-! # The number of arguments is checked on every path

A procedure is entered with no other numbers of arguments than its arity accepts, wherever it comes
from: the value applied, an argument, or an element of a list that a built-in goes through. What an
executor is handed in the course of a run is seen by keeping a log of it. The log is written where
the executor receives a call, so it shows what application passes on and not what it should.
-/

namespace SchemeBase

open Value

variable {σ α β : Type}

theorem Closure.accepts_arity_iff {δ : Type} (code : Closure δ) (count : Nat) :
    code.arity.accepts count = true ↔
      if code.rest.isSome then code.params.length ≤ count else count = code.params.length := by
  unfold Closure.arity
  split
  · rw [Arity.accepts, Bool.and_eq_true, decide_eq_true_iff]
    exact and_iff_left rfl
  · rw [Arity.accepts, Bool.and_eq_true, decide_eq_true_iff]
    change code.params.length ≤ count ∧ decide (count ≤ code.params.length) = true ↔ _
    rw [decide_eq_true_iff]
    omega

/-- What an error about the number of its arguments says of a procedure: what it is called, and its
arity. A lambda is called as the table spells its name, or `#<procedure>` if it has none. -/
def Value.signature? (table : SymbolTable) : Value → Option (String × Arity)
  | primitive p => some (p.name, p.arity)
  | lambda _ code => some (code.name.elim "#<procedure>" table.spelling, code.arity)
  | _ => none

theorem Executor.lambdaName_eq (table : SymbolTable) (code : Lambda) :
    lambdaName table code = code.name.elim "#<procedure>" table.spelling := by
  unfold lambdaName
  cases code.name with
  | none => rfl
  | some name => rfl

/-! ## A log of what the executor is handed -/

/-- A call that an executor is handed. -/
inductive Handed where
  | lambda (code : Lambda) (args : List Value)
  | host (callee : HostPrimitive) (args : List Value)

/-- A call is nested in an application, and has a number of arguments that the procedure takes. -/
def Handed.Admitted (table : TableId) (outer : Call) : Handed → Prop
  | lambda code args =>
    code.arity.accepts args.length = true ∧ ∃ id, Nested table outer (.lambda id code, args)
  | host callee args =>
    callee.arity.accepts args.length = true ∧ Nested table outer (.primitive (.host callee), args)

theorem Handed.Admitted.of_issues {table : TableId} {outer inner : Call} {handed : Handed}
    (admitted : handed.Admitted table inner) (issued : Issues table outer inner) :
    handed.Admitted table outer := by
  cases handed with
  | lambda code args =>
    obtain ⟨accepted, id, nested⟩ := admitted
    exact ⟨accepted, id, .head issued nested⟩
  | host callee args => exact ⟨admitted.1, .head issued admitted.2⟩

/-- A machine that keeps a log beside the state of its executor. -/
def Machine.logging (machine : Machine σ) (log : List Handed) : Machine (σ × List Handed) :=
  ⟨machine.store, (machine.state, log)⟩

/-- A computation that adds a call to the log. -/
def EvalM.recording (call : Handed) (computation : EvalM σ α) : EvalM (σ × List Handed) α :=
  fun ⟨store, state, log⟩ =>
    let (result, later) := computation ⟨store, state⟩
    (result, later.logging (log ++ [call]))

/-- An executor that keeps a log of the calls that it is handed. -/
def Executor.logged (executor : Executor σ) : Executor (σ × List Handed) where
  table := executor.table
  callLambda code args := (executor.callLambda code args).recording (.lambda code args)
  callHost host args := (executor.callHost host args).recording (.host host args)

/-- One computation does what the other does, and all that it adds to the log satisfies `P`. -/
def Mirrors (P : Handed → Prop) (logged : EvalM (σ × List Handed) α) (plain : EvalM σ α) : Prop :=
  ∀ machine log, ∃ calls : List Handed, (∀ call ∈ calls, P call) ∧
    logged (machine.logging log) = ((plain machine).1, (plain machine).2.logging (log ++ calls))

namespace Mirrors

variable {P Q : Handed → Prop}

theorem mono {logged : EvalM (σ × List Handed) α} {plain : EvalM σ α} (mirrors : Mirrors P logged plain)
    (weaker : ∀ call, P call → Q call) : Mirrors Q logged plain := by
  intro machine log
  obtain ⟨calls, each, run⟩ := mirrors machine log
  exact ⟨calls, fun call member => weaker call (each call member), run⟩

/-- A computation that leaves the executor alone adds nothing. -/
theorem silent {logged : EvalM (σ × List Handed) α} {plain : EvalM σ α}
    (same : ∀ machine log, logged (machine.logging log) =
      ((plain machine).1, (plain machine).2.logging log)) : Mirrors P logged plain :=
  fun machine log => ⟨[], List.forall_mem_nil _, by rw [List.append_nil, same]⟩

theorem recording (call : Handed) (holds : P call) (computation : EvalM σ α) :
    Mirrors P (computation.recording call) computation :=
  fun _ _ => ⟨[call], List.forall_mem_singleton.mpr holds, rfl⟩

theorem bind {logged : EvalM (σ × List Handed) α} {plain : EvalM σ α}
    {loggedNext : α → EvalM (σ × List Handed) β} {plainNext : α → EvalM σ β}
    (first : Mirrors P logged plain)
    (next : ∀ answer, Mirrors P (loggedNext answer) (plainNext answer)) :
    Mirrors P (logged >>= loggedNext) (plain >>= plainNext) := by
  intro machine log
  obtain ⟨before, each, run⟩ := first machine log
  change ∃ calls : List Handed, _ ∧
    ExceptT.bindCont loggedNext (logged (machine.logging log)).1 (logged (machine.logging log)).2 =
      ((ExceptT.bindCont plainNext (plain machine).1 (plain machine).2).1,
        (ExceptT.bindCont plainNext (plain machine).1 (plain machine).2).2.logging (log ++ calls))
  rw [run]
  cases (plain machine).1 with
  | error cause => exact ⟨before, each, rfl⟩
  | ok answer =>
    obtain ⟨after, others, rest⟩ := next answer (plain machine).2 (log ++ before)
    refine ⟨before ++ after, List.forall_mem_append.mpr ⟨each, others⟩, ?_⟩
    rw [← List.append_assoc]
    exact rest

theorem mapM {γ : Type} {items : List γ} {logged : γ → EvalM (σ × List Handed) α}
    {plain : γ → EvalM σ α} (each : ∀ item ∈ items, Mirrors P (logged item) (plain item)) :
    Mirrors P (items.mapM logged) (items.mapM plain) := by
  induction items with
  | nil => exact silent fun _ _ => rfl
  | cons item items ih =>
    obtain ⟨first, rest⟩ := List.forall_mem_cons.mp each
    rw [List.mapM_cons, List.mapM_cons]
    exact first.bind fun _ => (ih rest).bind fun _ => silent fun _ _ => rfl

theorem forM {γ : Type} {items : List γ} {logged : γ → EvalM (σ × List Handed) Unit}
    {plain : γ → EvalM σ Unit} (each : ∀ item ∈ items, Mirrors P (logged item) (plain item)) :
    Mirrors P (items.forM logged) (items.forM plain) := by
  induction items with
  | nil => exact silent fun _ _ => rfl
  | cons item items ih =>
    obtain ⟨first, rest⟩ := List.forall_mem_cons.mp each
    exact first.bind fun _ => ih rest

end Mirrors

namespace Executor

variable {executor : Executor σ}

theorem mirrors_perform {P : Handed → Prop} {step : Step}
    (nested : ∀ f request, (f, request) ∈ step.calls →
      Mirrors P (executor.logged.apply f request) (executor.apply f request)) :
    Mirrors P (executor.logged.perform step) (executor.perform step) := by
  cases step with
  | finish action => exact .silent fun _ _ => rfl
  | call f request => exact nested f request List.mem_cons_self
  | mapRows f rows =>
    refine Mirrors.bind (.mapM fun row member => ?_) fun _ => .silent fun _ _ => rfl
    exact nested f row (Step.mem_calls_mapRows f member)
  | visitRows f rows =>
    refine Mirrors.bind (.forM fun row member => ?_) fun _ => .silent fun _ _ => rfl
    exact (nested f row (Step.mem_calls_visitRows f member)).bind fun _ => .silent fun _ _ => rfl

/-- A whole run under a log does what it does without one, and hands the executor only what it is
admitted. -/
theorem mirrors_apply (executor : Executor σ) (f : Value) (args : List Value) :
    Mirrors (Handed.Admitted executor.table (f, args)) (executor.logged.apply f args)
      (executor.apply f args) := by
  induction f, args using call_induction executor.table with
  | step f args nested =>
    cases f with
    | primitive p =>
      cases p with
      | builtin builtin =>
        cases rule : builtin.step? executor.table args with
        | none =>
          have refused := (builtin.step?_eq_none_iff _).1 rule
          rw [apply_builtin_eq_throw refused, apply_builtin_eq_throw refused]
          exact .silent fun _ _ => rfl
        | some step =>
          have ruleLogged : builtin.step? executor.logged.table args = some step := rule
          rw [apply_builtin rule, apply_builtin ruleLogged]
          refine mirrors_perform fun g request asked => ?_
          have issued : Issues executor.table _ _ := .rule rule asked
          exact (nested g request issued).mono fun _ admitted => admitted.of_issues issued
      | host host =>
        rw [apply, apply]
        cases accepted : host.arity.accepts args.length with
        | true => exact .recording (.host host args) ⟨accepted, .refl⟩ _
        | false => exact .silent fun _ _ => rfl
    | lambda id code =>
      rw [apply, apply]
      cases accepted : code.arity.accepts args.length with
      | true => exact .recording (.lambda code args) ⟨accepted, id, .refl⟩ _
      | false => exact .silent fun _ _ => rfl
    | _ =>
      rw [apply_eq_throw rfl, apply_eq_throw rfl]
      exact .silent fun _ _ => rfl

/-- A wrong number of arguments is an error that names the procedure, and nothing else happens. -/
theorem apply_of_refused {f : Value} {args : List Value} {machine : Machine σ} {name : String}
    {arity : Arity} (signed : f.signature? (machine.store.table executor.table) = some (name, arity))
    (refused : arity.accepts args.length = false) :
    executor.apply f args machine = (.error (.arityMismatch name arity args.length), machine) := by
  cases f with
  | primitive p =>
    cases signed
    cases p with
    | builtin builtin =>
      rw [apply_builtin_eq_throw refused]
      rfl
    | host host =>
      have gate : host.arity.accepts args.length = false := refused
      rw [apply, gate]
      rfl
  | lambda id code =>
    cases signed
    rw [apply, refused, ← lambdaName_eq]
    rfl
  | _ => cases signed

/-- In a whole run, an executor is handed only calls that are nested in the application, with a number
of arguments that the lambda or host primitive takes. The same holds of built-ins, since they have a
rule for no other numbers. An application, nested or not, with a wrong number is the error that names
the procedure: the machine stays as it was, and the executor is handed nothing. A lambda is named by
the spelling of its name, where the table of the executor resolves it. -/
theorem apply_gated (executor : Executor σ) (f : Value) (args : List Value) :
    (∀ machine log, ∃ calls : List Handed,
      (∀ call ∈ calls, call.Admitted executor.table (f, args)) ∧
      executor.logged.apply f args (machine.logging log) =
        ((executor.apply f args machine).1, (executor.apply f args machine).2.logging (log ++ calls))) ∧
    (∀ g request, Nested executor.table (f, args) (g, request) →
      (∀ builtin, g = .primitive (.builtin builtin) →
        (builtin.step? executor.table request).isSome = builtin.arity.accepts request.length) ∧
      ∀ (machine : Machine σ) name arity,
        g.signature? (machine.store.table executor.table) = some (name, arity) →
        arity.accepts request.length = false →
          executor.apply g request machine =
            (.error (.arityMismatch name arity request.length), machine) ∧
          ∀ log, executor.logged.apply g request (machine.logging log) =
            (.error (.arityMismatch name arity request.length), machine.logging log)) ∧
    (∀ (code : Lambda) count, code.arity.accepts count = true ↔
      if code.rest.isSome then code.params.length ≤ count else count = code.params.length) ∧
    ∀ (table : SymbolTable) (id : Identity) (code : Lambda),
      (Value.lambda id code).signature? table = some (match code.name with
        | some name => (table.resolve? name).getD name.placeholder
        | none => "#<procedure>", code.arity) := by
  refine ⟨mirrors_apply executor f args, fun g request _ => ⟨?_, ?_⟩, Closure.accepts_arity_iff,
    fun table id code => ?_⟩
  · rintro builtin rfl
    exact builtin.isSome_step? executor.table request
  · intro machine name arity signed refused
    exact ⟨apply_of_refused signed refused, fun log => apply_of_refused signed refused⟩
  · change some (code.name.elim "#<procedure>" table.spelling, code.arity) = _
    cases code.name with
    | none => rfl
    | some name => rfl

/-- Mapping over one list asks for calls with one argument. A lambda of two parameters refuses such a
call before it is entered, whether its name is known to the table, comes from another one, or is
missing. -/
theorem apply_gated_named :
    let interned := Store.internIn 0 "area" (Store.createTable {}).2
    let start : Machine Unit := ⟨interned.2, ()⟩
    let executor : Executor Unit := ⟨0, fun _ _ => return .unspecified, fun _ _ => return .unspecified⟩
    let maps : Value := .primitive (.builtin (.procedure .map))
    let two (name : Option Symbol) : Value :=
      .lambda 0 ⟨[.ofParts 0 1 2, .ofParts 0 1 3], none, .null, 0, name⟩
    let args (name : Option Symbol) : List Value := [two name, listFrom 1 [.integer 7] .null]
    let refuses (name : Option Symbol) (text : String) : Prop :=
      Nested 0 (maps, args name) (two name, [.integer 7]) ∧ (Arity.exactly 2).accepts 1 = false ∧
      executor.apply (two name) [.integer 7] start =
        (.error (.arityMismatch text (.exactly 2) 1), start) ∧
      executor.logged.apply (two name) [.integer 7] (start.logging []) =
        (.error (.arityMismatch text (.exactly 2) 1), start.logging [])
    interned.1 = .ok (.ofParts 0 13 1) ∧ refuses (some (.ofParts 0 13 1)) "area" ∧
      refuses (some (.ofParts 5 13 1)) "#<symbol 5:13:1>" ∧ refuses none "#<procedure>" := by
  intro interned start executor maps two args refuses
  have refused {name : Option Symbol} {text : String}
      (signed : (two name).signature? (start.store.table 0) = some (text, .exactly 2)) :
      refuses name text := by
    have rule : Builtin.step? 0 (.procedure .map) (args name) =
        some (.mapRows (two name) [[.integer 7]]) := rfl
    have nested : Nested 0 (maps, args name) (two name, [.integer 7]) :=
      .single (.rule rule List.mem_cons_self)
    obtain ⟨plain, logged⟩ :=
      ((executor.apply_gated maps (args name)).2.1 _ _ nested).2 start _ _ signed rfl
    exact ⟨nested, rfl, plain, logged []⟩
  exact ⟨by decide +kernel, refused (by decide +kernel), refused (by decide +kernel), refused rfl⟩

end Executor

end SchemeBase
