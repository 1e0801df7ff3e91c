import SchemeBase.Proofs.Apply.Conversion
import SchemeBase.Proofs.Apply.Growth

/-! # Which spellings a run adds

Built-ins read the symbol table in many places: for the names in errors, for the messages of
conditions, for the text of a symbol. One of them adds to it, and adds no more than the text that it
is given. So the table after a run has the spellings it had and the texts that this built-in was
given in the course of the run, and a run that cannot reach the built-in leaves the table alone,
however deep its calls are nested and wherever it ends.
-/

namespace SchemeBase

open Store

variable {σ : Type} {allowed : TableId → String → Prop} {table : TableId} {store : Store}

/-! ## Calls one after another -/

/-- Each of several calls lets the store grow, made after those before it. -/
def EachGrows (allowed : TableId → String → Prop) (executor : Executor σ) (calls : List Call)
    (machine : Machine σ) : Prop :=
  ∀ before call after middle answers, calls = before ++ call :: after →
    Answers executor before machine answers middle →
    Grown allowed middle.store (executor.make call middle).2.store

section Calls

variable {executor : Executor σ} {calls : List Call} {call : Call} {machine middle : Machine σ}
  {answer : Value}

theorem EachGrows.tail (each : EachGrows allowed executor (call :: calls) machine)
    (first : executor.make call machine = (.ok answer, middle)) :
    EachGrows allowed executor calls middle := by
  rintro before inner after later answers rfl answered
  exact each (call :: before) inner after later (answer :: answers) rfl (.cons first answered)

/-- The calls together let the store grow, whether all are answered or one of them fails. -/
theorem EachGrows.grown (each : EachGrows allowed executor calls machine) :
    Grown allowed machine.store (calls.mapM executor.make machine).2.store := by
  induction calls generalizing machine with
  | nil => exact .refl
  | cons call calls ih =>
    have start := each [] call calls machine [] rfl (.nil machine)
    rcases first : executor.make call machine with ⟨result, middle⟩
    rw [first] at start
    cases result with
    | error cause =>
      rw [List.mapM_cons, EvalM.bind_error _ first]
      exact start
    | ok answer =>
      rw [mapM_make_cons first]
      exact start.trans (ih (each.tail first))

end Calls

/-- Growth leads from every store to itself, composes, and leads wherever stores grow. -/
theorem flows_grown : Flows fun machine later : Machine σ =>
    Grown anySpelling machine.store later.store where
  refl _ := .refl
  trans := .trans
  grows run := run

/-- A call that is made in a run starts on a store grown from the first one, and the run goes on to
grow what the call leaves. -/
theorem Enters.grown {executor : Executor σ} {outer inner : Entry σ}
    (entered : Enters executor outer inner)
    (each : ∀ call, Issues executor.table outer.1 call → ∀ machine,
      Grown anySpelling machine.store (executor.make call machine).2.store) :
    Grown anySpelling outer.2.store inner.2.store ∧
      Grown anySpelling (executor.make inner.1 inner.2).2.store
        (executor.make outer.1 outer.2).2.store :=
  flows_grown.enters each entered

/-! ## Whole runs -/

/-- In the course of a run, `string->symbol` is given a string with the text, and interns it in the
table. -/
def Executor.Interns (executor : Executor σ) (run : Entry σ) (id : TableId) (text : String) : Prop :=
  id = executor.table ∧ ∃ identity machine symbol,
    Reaches executor run ((stringToSymbol, [.string identity text]), machine) ∧
    (internIn id text machine.store).1 = .ok symbol

theorem Executor.Interns.of_enters {executor : Executor σ} {outer inner : Entry σ} {id : TableId}
    {text : String} (interned : executor.Interns inner id text)
    (entered : Enters executor outer inner) : executor.Interns outer id text := by
  obtain ⟨same, identity, machine, symbol, reached, answer⟩ := interned
  exact ⟨same, identity, machine, symbol, .head entered reached, answer⟩

section Runs

variable {executor : Executor σ}
  (idle : ∀ code args machine, (executor.callLambda code args machine).2 = machine)

include idle

/-- Under built-ins alone a run lets the store grow, by the texts that it interns. -/
theorem grown_apply (f : Value) (args : List Value)
    (builtins : ∀ value ∈ f :: args, value.primitivesAll Primitive.isBuiltin = true)
    (machine : Machine σ) :
    Grown (executor.Interns ((f, args), machine)) machine.store
      (executor.apply f args machine).2.store := by
  induction f, args using call_induction executor.table generalizing machine with
  | step f args nested =>
    cases f with
    | primitive p =>
      cases p with
      | builtin builtin =>
        cases rule : builtin.step? executor.table args with
        | none =>
          rw [Executor.apply_builtin_eq_throw ((builtin.step?_eq_none_iff _).1 rule)]
          exact .refl
        | some step =>
          let run : Entry σ := ((.primitive (.builtin builtin), args), machine)
          have finishes : step.GrowsFrom (executor.Interns run) machine.store :=
            .builtin rule fun identity text symbol => by
              rintro rfl rfl answer
              exact ⟨rfl, identity, machine, symbol, .refl, answer⟩
          -- What a call of the step interns is interned in the course of the whole run.
          have each : EachGrows (executor.Interns run) executor step.calls machine := by
            intro before call after middle answers split answered
            have entered : Enters executor run (call, middle) := .rule rule split answered
            have inner := entered.issues.forall_primitives builtins
            have growth := nested call.1 call.2 entered.issues inner middle
            exact growth.mono fun _ _ interned => interned.of_enters entered
          rw [Executor.apply_builtin rule]
          exact each.grown.trans (grown_perform finishes)
      | host => cases (List.forall_mem_cons.mp builtins).1
    | lambda id code =>
      rw [Executor.apply]
      cases code.arity.accepts args.length with
      | false => exact .refl
      | true =>
        rw [if_pos rfl, idle]
    | _ =>
      rw [Executor.apply_eq_throw rfl]
      exact .refl

/-- A call that is made in a run starts on a store grown from the first one, and the rest of the run
grows what the call leaves. -/
theorem Reaches.grown {outer inner : Entry σ} (reached : Reaches executor outer inner)
    (builtins : ∀ value ∈ outer.1.1 :: outer.1.2, value.primitivesAll Primitive.isBuiltin = true) :
    Grown anySpelling outer.2.store inner.2.store ∧
      Grown anySpelling (executor.make inner.1 inner.2).2.store
        (executor.make outer.1 outer.2).2.store := by
  induction reached using Relation.ReflTransGen.head_induction_on with
  | refl => exact ⟨.refl, .refl⟩
  | head entered _ ih =>
    obtain ⟨start, rest⟩ := entered.grown fun call issued machine => by
      have growth := grown_apply idle call.1 call.2 (issued.forall_primitives builtins) machine
      exact growth.mono fun _ _ _ => trivial
    obtain ⟨before, after⟩ := ih (entered.issues.forall_primitives builtins)
    exact ⟨start.trans before, after.trans rest⟩

/-- A text that is interned in a run is known after it. -/
theorem Executor.Interns.known {run : Entry σ} {id : TableId} {text : String}
    (interned : executor.Interns run id text) (made : executor.table < run.2.store.tables.size)
    (builtins : ∀ value ∈ run.1.1 :: run.1.2, value.primitivesAll Primitive.isBuiltin = true) :
    (((executor.make run.1 run.2).2.store.table id).get? text).isSome := by
  obtain ⟨rfl, identity, ⟨store, state⟩, symbol, reached, answer⟩ := interned
  obtain ⟨before, after⟩ := Reaches.grown idle reached builtins
  have found := get?_of_internIn (before.gains.size ▸ made) answer
  rw [Executor.make, Executor.apply_stringToSymbol] at after
  rw [(after.gains.extension _).get? _ _ found]
  rfl

end Runs

/-! ### Runs without the built-in -/

/-- If neither the procedure nor the arguments lead to `string->symbol`, it is not called. -/
theorem Reaches.ne_stringToSymbol {executor : Executor σ} {outer inner : Entry σ}
    (reached : Reaches executor outer inner) (other : outer.1.1 ≠ stringToSymbol)
    (apart : ∀ arg ∈ outer.1.2, arg.primitivesAll (· != .builtin (.symbol .ofText)) = true) :
    inner.1.1 ≠ stringToSymbol ∧
      ∀ arg ∈ inner.1.2, arg.primitivesAll (· != .builtin (.symbol .ofText)) = true := by
  induction reached with
  | refl => exact ⟨other, apart⟩
  | tail _ entered ih =>
    obtain ⟨callee, rest⟩ := entered.issues.forall_parts Value.primitivesAll_pair ih.2
    refine ⟨fun same => ?_, rest⟩
    rw [same] at callee
    exact absurd callee (by decide)

/-- A run under built-ins alone, whether it ends in success or in an error, adds to the table of the
executor just the texts that `string->symbol` is given and interns in its course. Handles keep their
spellings, and a run that does not lead to `string->symbol` changes no table at all. -/
theorem Executor.apply_spellings (table : TableId)
    (callHost : HostPrimitive → List Value → EvalM σ Value) (f : Value) (args : List Value)
    (machine : Machine σ) (reachable : machine.store.Reachable)
    (made : table < machine.store.tables.size)
    (builtins : ∀ value ∈ f :: args, value.primitivesAll Primitive.isBuiltin = true) :
    let executor := Executor.withoutEvaluator table callHost
    let later := (executor.apply f args machine).2.store
    (∀ id symbol text, (machine.store.table id).resolve? symbol = some text →
      (later.table id).resolve? symbol = some text) ∧
    (∀ id text, ((later.table id).get? text).isSome ↔
      ((machine.store.table id).get? text).isSome ∨
        executor.Interns ((f, args), machine) id text) ∧
    (f ≠ stringToSymbol →
      (∀ arg ∈ args, arg.primitivesAll (· != .builtin (.symbol .ofText)) = true) →
      later.tables = machine.store.tables) := by
  intro executor later
  have idle : ∀ code args machine, (executor.callLambda code args machine).2 = machine :=
    fun _ _ _ => rfl
  have gains := (grown_apply idle f args builtins machine).gains
  have before := reachable.wellFormed
  have after := gains.wellFormed before
  refine ⟨fun id symbol text read => ?_, fun id text => ⟨gains.known id text, ?_⟩,
    fun other apart => gains.tables_eq fun id text interned => ?_⟩
  · exact (gains.extension id).resolve? (before.table id) (after.table id) read
  · rintro (known | interned)
    · obtain ⟨symbol, found⟩ := Option.isSome_iff_exists.mp known
      rw [(gains.extension id).get? _ _ found]
      rfl
    · exact interned.known idle made builtins
  · obtain ⟨_, _, _, _, reached, _⟩ := interned
    exact (Reaches.ne_stringToSymbol reached other apart).1 rfl

/-- Mapping `string->symbol` over a list fails at its second element, and has then interned the first
one. An error about a symbol and the same strings interns nothing. -/
theorem Executor.apply_spellings_partway :
    let executor : Executor Unit := .withoutEvaluator 0 fun _ _ => return .unspecified
    let machine : Machine Unit := ⟨(createGlobal {}).2, ()⟩
    let map : Value := .primitive (.builtin (.procedure .map))
    let error : Value := .primitive (.builtin (.condition .error))
    let texts : Value := .listFrom 0 [.string 2 "new", .integer 5] .null
    let symbol : Value := .symbol (.ofParts 0 7 0)
    let mapped := (executor.apply map [stringToSymbol, texts] machine).2.store
    let failed := (executor.apply error [symbol, texts] machine).2.store
    machine.store.Reachable ∧ 0 < machine.store.tables.size ∧
      (∀ value ∈ [map, error, stringToSymbol, texts, symbol],
        value.primitivesAll Primitive.isBuiltin = true) ∧
      (machine.store.table 0).get? "new" = none ∧ ((mapped.table 0).get? "new").isSome ∧
      failed.tables = machine.store.tables := by
  intro executor machine map error texts symbol mapped failed
  have reachable : machine.store.Reachable := Reachable.createGlobal .refl
  have made : 0 < machine.store.tables.size := Nat.one_pos
  have rule : Builtin.step? 0 (.procedure .map) [stringToSymbol, texts] =
      some (.mapRows stringToSymbol [[.string 2 "new"], [.integer 5]]) := rfl
  have entered : Enters executor ((map, [stringToSymbol, texts]), machine)
      ((stringToSymbol, [.string 2 "new"]), machine) := .rule rule rfl (.nil machine)
  have interned : executor.Interns ((map, [stringToSymbol, texts]), machine) 0 "new" :=
    ⟨rfl, 2, machine, .ofParts 0 0 2, .single entered, by decide +kernel⟩
  have mapping := apply_spellings 0 (fun _ _ => return .unspecified) map [stringToSymbol, texts]
    machine reachable made (by decide)
  have failing := apply_spellings 0 (fun _ _ => return .unspecified) error [symbol, texts]
    machine reachable made (by decide)
  refine ⟨reachable, made, by decide, by decide +kernel, (mapping.2.1 0 "new").mpr (.inr interned),
    failing.2.2 (by simp [error]) (by decide)⟩

end SchemeBase
