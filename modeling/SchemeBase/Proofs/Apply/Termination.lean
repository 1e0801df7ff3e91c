import SchemeBase.Proofs.Apply.Nesting

/-! # Application returns

Lambdas and host primitives are the business of an executor, and a call of one may never return.
Everything that applies around them does: nested applications are limited to a depth, and a limit of
the total size of the arguments is never met. The limited application is defined by recursion on the
limit alone, without the argument that makes the unlimited one a total function, and agrees with it.
-/

namespace SchemeBase

open Value

variable {σ α β : Type}

/-- A computation of an executor that may not return, and then has no outcome. -/
abbrev PartialM (σ α : Type) := ExceptT EvalError (StateT (Machine σ) Option) α

namespace PartialM

/-- A computation that does not return. -/
def never : PartialM σ α := fun _ => none

/-- A computation that returns. -/
def ofTotal (computation : EvalM σ α) : PartialM σ α := fun machine => some (computation machine)

theorem ofTotal_bind (computation : EvalM σ α) (next : α → EvalM σ β) :
    ofTotal (computation >>= next) = ofTotal computation >>= fun answer => ofTotal (next answer) := by
  funext machine
  change some (ExceptT.bindCont next (computation machine).1 (computation machine).2) =
    ExceptT.bindCont (fun answer => ofTotal (next answer)) (computation machine).1
      (computation machine).2
  cases (computation machine).1 <;> rfl

/-- Where each element returns, going through all of them does. -/
theorem mapM_ofTotal {γ : Type} {items : List γ} {step : γ → PartialM σ α} {total : γ → EvalM σ α}
    (each : ∀ item ∈ items, step item = ofTotal (total item)) :
    items.mapM step = ofTotal (items.mapM total) := by
  induction items with
  | nil => rfl
  | cons item items ih =>
    obtain ⟨first, rest⟩ := List.forall_mem_cons.mp each
    rw [List.mapM_cons, List.mapM_cons, first, ih rest]
    simp only [ofTotal_bind]
    rfl

theorem forM_ofTotal {γ : Type} {items : List γ} {step : γ → PartialM σ Unit}
    {total : γ → EvalM σ Unit} (each : ∀ item ∈ items, step item = ofTotal (total item)) :
    items.forM step = ofTotal (items.forM total) := by
  induction items with
  | nil => rfl
  | cons item items ih =>
    obtain ⟨first, rest⟩ := List.forall_mem_cons.mp each
    change (step item >>= fun _ => items.forM step) = ofTotal (total item >>= fun _ => items.forM total)
    rw [first, ih rest, ofTotal_bind]

end PartialM

/-- An executor whose lambdas and host primitives may not return. -/
structure PartialExecutor (σ : Type) where
  table : TableId
  callLambda : Lambda → List Value → PartialM σ Value
  callHost : HostPrimitive → List Value → PartialM σ Value

namespace PartialExecutor

/-- What a step of a built-in amounts to if its applications are made by `inner`. -/
def performWith (inner : Value → List Value → PartialM σ Value) : Step → PartialM σ Value
  | .finish action => .ofTotal (EvalM.ofStore action)
  | .call f request => inner f request
  | .mapRows f rows => do
    let answers ← rows.mapM (inner f)
    PartialM.ofTotal (EvalM.ofStore (Store.newList answers))
  | .visitRows f rows => do
    rows.forM fun row => discard (inner f row)
    return .unspecified

/-- One application, whose nested applications are made by `inner`. -/
def applyWith (executor : PartialExecutor σ) (inner : Value → List Value → PartialM σ Value)
    (procedure : Value) (args : List Value) : PartialM σ Value :=
  match procedure with
  | .primitive (.builtin builtin) =>
    match builtin.step? executor.table args with
    | none => throw (.arityMismatch builtin.name builtin.arity args.length)
    | some step => performWith inner step
  | .primitive (.host host) =>
    if host.arity.accepts args.length then executor.callHost host args
    else throw (.arityMismatch host.name host.arity args.length)
  | .lambda _ code =>
    if code.arity.accepts args.length then executor.callLambda code args
    else do
      let table ← PartialM.ofTotal (EvalM.table executor.table)
      throw (.arityMismatch (Executor.lambdaName table code) code.arity args.length)
  | other => throw (.notCallable other.type)

/-- Applies a procedure to arguments. Applications nest at most to a given depth, and a deeper one
does not return. -/
def applyWithin (executor : PartialExecutor σ) : Nat → Value → List Value → PartialM σ Value
  | 0 => executor.applyWith fun _ _ => .never
  | depth + 1 => executor.applyWith (executor.applyWithin depth)

variable {executor : PartialExecutor σ} {total : Executor σ}

theorem performWith_ofTotal {inner : Value → List Value → PartialM σ Value} {step : Step}
    (nested : ∀ g request, (g, request) ∈ step.calls →
      inner g request = .ofTotal (total.apply g request)) :
    performWith inner step = .ofTotal (total.perform step) := by
  cases step with
  | finish action => rfl
  | call f request => exact nested f request List.mem_cons_self
  | mapRows f rows =>
    have each := PartialM.mapM_ofTotal fun row member =>
      nested f row (Step.mem_calls_mapRows f member)
    rw [performWith, Executor.perform, each, PartialM.ofTotal_bind]
  | visitRows f rows =>
    have each : rows.forM (fun row => discard (inner f row)) =
        .ofTotal (rows.forM fun row => discard (total.apply f row)) := by
      refine PartialM.forM_ofTotal fun row member => ?_
      rw [nested f row (Step.mem_calls_visitRows f member)]
      exact (PartialM.ofTotal_bind (total.apply f row) fun _ => pure ()).symm
    rw [performWith, Executor.perform, each, PartialM.ofTotal_bind]
    rfl

section Agreement

variable (tables : total.table = executor.table)
  (lambdas : ∀ code args, executor.callLambda code args = .ofTotal (total.callLambda code args))
  (test : Primitive → Bool)
  (hosts : ∀ host, test (.host host) = true → ∀ args,
    executor.callHost host args = .ofTotal (total.callHost host args))

include tables lambdas hosts

/-- One application returns if the nested ones do. -/
theorem applyWith_ofTotal {inner : Value → List Value → PartialM σ Value} {f : Value}
    {args : List Value} (tested : f.primitivesAll test = true)
    (nested : ∀ g request, Issues executor.table (f, args) (g, request) →
      inner g request = .ofTotal (total.apply g request)) :
    executor.applyWith inner f args = .ofTotal (total.apply f args) := by
  cases f with
  | primitive p =>
    cases p with
    | builtin builtin =>
      rw [applyWith]
      cases rule : builtin.step? executor.table args with
      | none =>
        rw [Executor.apply_builtin_eq_throw ((builtin.step?_eq_none_iff _).1 rule)]
        rfl
      | some step =>
        rw [Executor.apply_builtin (tables ▸ rule)]
        exact performWith_ofTotal fun g request asked => nested g request (.rule rule asked)
    | host host =>
      rw [applyWith, Executor.apply, hosts host tested]
      split <;> rfl
  | lambda id code =>
    rw [applyWith, Executor.apply, lambdas, tables]
    split <;> rfl
  | _ =>
    rw [Executor.apply_eq_throw rfl]
    rfl

/-- A depth of the total size of the arguments is enough for an application. -/
theorem applyWithin_ofTotal {depth : Nat} {f : Value} {args : List Value}
    (tested : ∀ value ∈ f :: args, value.primitivesAll test = true)
    (enough : totalSize args ≤ depth) :
    executor.applyWithin depth f args = .ofTotal (total.apply f args) := by
  induction depth generalizing f args with
  | zero =>
    have procedure := (List.forall_mem_cons.mp tested).1
    refine applyWith_ofTotal tables lambdas test hosts procedure fun g request issued => ?_
    exact absurd (Nat.lt_of_lt_of_le issued.totalSize_lt enough) (Nat.not_lt_zero _)
  | succ depth ih =>
    have procedure := (List.forall_mem_cons.mp tested).1
    refine applyWith_ofTotal tables lambdas test hosts procedure fun g request issued => ?_
    have smaller : totalSize request < totalSize args := issued.totalSize_lt
    refine ih (issued.forall_primitives tested) ?_
    omega

end Agreement

/-- If all calls of lambdas return, some total executor has the same lambdas. -/
theorem exists_total (returns : ∀ code args machine, (executor.callLambda code args machine).isSome) :
    ∃ total : Executor σ, total.table = executor.table ∧
      ∀ code args, executor.callLambda code args = .ofTotal (total.callLambda code args) := by
  refine ⟨⟨executor.table, fun code args machine => (executor.callLambda code args machine).get
    (returns code args machine), fun _ _ => throw .requiresEvaluator⟩, rfl, fun code args => ?_⟩
  funext machine
  exact (Option.some_get _).symm

/-- Whatever is applied to arguments that lead to no primitives but built-in ones, the application
returns, provided that each call of a lambda does. No application nests deeper than the arguments are
large, since each nested one has smaller arguments than the one that asks for it. An executor that
always returns gives what it gives without a limit. -/
theorem applyWithin_isSome (executor : PartialExecutor σ)
    (returns : ∀ code args machine, (executor.callLambda code args machine).isSome) (f : Value)
    (args : List Value) (builtin : ∀ value ∈ f :: args, value.primitivesAll Primitive.isBuiltin = true) :
    (∀ depth, totalSize args ≤ depth → ∀ machine,
      (executor.applyWithin depth f args machine).isSome) ∧
    (∀ total : Executor σ, total.table = executor.table →
      (∀ code args, executor.callLambda code args = .ofTotal (total.callLambda code args)) →
      ∀ depth, totalSize args ≤ depth →
        executor.applyWithin depth f args = .ofTotal (total.apply f args)) ∧
    (∀ outer inner, Issues executor.table outer inner → totalSize inner.2 < totalSize outer.2) ∧
    ∀ calls, List.IsChain (Issues executor.table) ((f, args) :: calls) →
      calls.length ≤ totalSize args := by
  have agree (total : Executor σ) (tables : total.table = executor.table)
      (lambdas : ∀ code args, executor.callLambda code args = .ofTotal (total.callLambda code args))
      (depth : Nat) (enough : totalSize args ≤ depth) :
      executor.applyWithin depth f args = .ofTotal (total.apply f args) :=
    applyWithin_ofTotal tables lambdas _ (fun _ other => absurd other Bool.false_ne_true) builtin enough
  refine ⟨fun depth enough machine => ?_, agree, fun _ _ issued => issued.totalSize_lt,
    fun _ chain => length_le_totalSize chain⟩
  obtain ⟨total, tables, lambdas⟩ := exists_total returns
  rw [agree total tables lambdas depth enough]
  rfl

/-- Mapping `apply` over a list with `map` in it, where no host primitive ever returns: `map` asks
for `apply`, that for `map` again, and that for two negations. A limit of two is too low for them. -/
theorem applyWithin_isSome_nested :
    let executor : PartialExecutor Unit := ⟨0, fun _ _ => throw .requiresEvaluator, fun _ _ => .never⟩
    let applies : Value := .primitive (.builtin (.procedure .apply))
    let maps : Value := .primitive (.builtin (.procedure .map))
    let negates : Value := .primitive (.builtin (.boolean .not))
    let row : Value := listFrom 0 [.boolean false, .boolean true] .null
    let args : List Value := [applies, listFrom 2 [maps] .null, listFrom 3 [negates] .null,
      listFrom 4 [listFrom 5 [row] .null] .null]
    let start : Machine Unit := ⟨{ nextIdentity := 6 }, ()⟩
    totalSize args = 16 ∧ (∀ value ∈ maps :: args, value.primitivesAll Primitive.isBuiltin = true) ∧
      (executor.applyWithin 16 maps args start).isSome ∧
      (executor.applyWithin 16 maps args start).map Prod.fst =
        some (.ok (listFrom 8 [listFrom 6 [.boolean true, .boolean false] .null] .null)) ∧
      (executor.applyWithin 2 maps args start).isNone := by
  intro executor applies maps negates row args start
  have builtin : ∀ value ∈ maps :: args, value.primitivesAll Primitive.isBuiltin = true := by decide
  have returned := (executor.applyWithin_isSome (fun _ _ _ => rfl) maps args builtin).1
  exact ⟨rfl, builtin, returned 16 (by decide) start, rfl, rfl⟩

end PartialExecutor

end SchemeBase
