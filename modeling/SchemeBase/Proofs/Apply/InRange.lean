import Mathlib.Data.List.Forall2
import SchemeBase.Proofs.Apply.Nesting
import SchemeBase.Proofs.Apply.Positional
import SchemeBase.Proofs.Apply.Rows
import SchemeBase.Proofs.Store.Growth

/-! # No position is out of range

A built-in whose arguments are counted takes none that is not there. Wherever there is a rule, the body
reads the arguments that the rule names, at the positions where they stand, and what it does with them
is what the rule does. Rows are read as far as the shortest list goes, and there every list has an
element. So an application with all built-ins taken by their bodies is the application by their rules, at
whatever depth it nests, and only a table without room for a text brings it to an end.
-/

namespace SchemeBase

open Value BodyM

variable {σ α β γ : Type} {table : TableId} {args : List Value} {executor : Executor σ} {step : Step}

/-! ## Rules without applications -/

namespace Executor

theorem ofTotal_perform_ofResult (result : Except EvalError Value) :
    ofTotal (executor.perform (.ofResult result)) = ofResult result := by
  cases result <;> rfl

theorem ofTotal_perform_ofChecked (checked : Except EvalError α) (next : α → Step) :
    ofTotal (executor.perform (.ofChecked (checked.map next))) =
      ofResult checked >>= fun contents => ofTotal (executor.perform (next contents)) := by
  cases checked <;> rfl

end Executor

open Executor

namespace CharacterPrimitive

theorem allM_neighbours (relation : α → α → Bool) (items : List α) :
    ((neighbours items).allM fun pair => return relation (← readAt pair 0) (← readAt pair 1) :
      BodyM σ Bool) = pure (adjacent relation items) := by
  fun_induction neighbours items with
  | case1 a b rest ih =>
    have first : (readAt [a, b] 0 : BodyM σ α) = pure a := rfl
    have second : (readAt [a, b] 1 : BodyM σ α) = pure b := rfl
    rw [List.allM, adjacent, ih, first, second, pure_bind, pure_bind, pure_bind]
    cases relation a b <;> rfl
  | case2 items other =>
    rw [adjacent]
    · rfl
    · exact other

theorem onChar_eq (primitive : CharacterPrimitive) (f : Char → Value) (arg : Value) :
    (do return f (← argAt primitive.name .char asChar? [arg] 0)) =
      ofTotal (executor.perform (primitive.onChar f arg)) := by
  rw [onChar, ofTotal_perform_ofResult, ofResult_map, argAt_eq rfl]

theorem body_eq {primitive : CharacterPrimitive} (rule : primitive.step? args = some step) :
    primitive.body args = ofTotal (executor.perform step) := by
  unfold step? at rule
  split at rule <;> cases rule
  · rfl
  · rw [body, ofTotal_perform_ofResult, mapM_map, List.range_eq_range', Checks.argAt.mapM_eq,
      ofResult_bind]
    simp only [allM_neighbours, map_eq_pure_bind, bind_assoc, pure_bind]
    rfl
  · exact onChar_eq _ _ _
  · exact onChar_eq _ _ _
  · rw [body, ofTotal_perform_ofResult, ofResult_bind, argAt_eq rfl]
    congr
    funext code
    cases charOfCode? code <;> rfl
  · exact onChar_eq _ _ _
  · exact onChar_eq _ _ _

end CharacterPrimitive

theorem BooleanPrimitive.body_eq {primitive : BooleanPrimitive}
    (rule : primitive.step? args = some step) :
    primitive.body args = ofTotal (executor.perform step) := by
  unfold step? at rule
  split at rule <;> cases rule
  · rfl
  · rfl
  · rfl
  · rfl
  · rfl
  · exact Checks.argAt.sameAt_eq.trans (ofTotal_perform_ofResult _).symm

namespace ConditionPrimitive

theorem conditionOf_cons (table : TableId) (first : Value) (irritants : List Value) :
    (conditionOf table (first :: irritants) : BodyM σ Value) = ofStore (build table first irritants) := by
  have rest : (slice (first :: irritants) 1 (first :: irritants).length : BodyM σ (List Value)) =
      pure irritants := by
    refine (slice_eq (Nat.le_add_left ..) (Nat.le_refl _)).trans ?_
    rw [List.take_succ_cons, List.take_length]
    rfl
  rw [conditionOf, rest]
  rfl

theorem body_eq {primitive : ConditionPrimitive}
    (rule : primitive.step? executor.table args = some step) :
    primitive.body executor.table args = ofTotal (executor.perform step) := by
  unfold step? at rule
  split at rule <;> cases rule
  · rw [body, conditionOf_cons]
    rfl
  · rfl
  · rfl
  · rw [body, onCondition, argAt_eq rfl, ofTotal_perform_ofChecked]
    rfl
  · rw [body, onCondition, argAt_eq rfl, ofTotal_perform_ofChecked]
    rfl
  · exact conditionOf_cons _ _ _

end ConditionPrimitive

/-! ## Outcomes -/

/-- How a body comes out, by how the rule comes out. The outcome and the machine that is left are the
same, unless a table refuses a text: that is an error by the rule and the end by the body. -/
inductive Settles (table : TableId) :
    Except Abort (Except EvalError α) × Machine σ → Except EvalError α × Machine σ → Prop
  | same (result : Except EvalError α) (later : Machine σ) :
      Settles table (.ok result, later) (result, later)
  | full (text : String) {cause : InternError} {later : Machine σ}
      (refused : ((later.store.table table).intern text).1 = .error cause) :
      Settles table (.error (.shardFull cause), later) (.error (.internFailed cause), later)

/-- One computation does by bodies what the other does by rules. -/
def Agrees (table : TableId) (body : BodyM σ α) (plain : EvalM σ α) : Prop :=
  ∀ machine, Settles table (body machine) (plain machine)

namespace Agrees

theorem ofTotal (plain : EvalM σ α) : Agrees table (ofTotal plain) plain :=
  fun machine => .same (plain machine).1 (plain machine).2

theorem of_eq {body : BodyM σ α} {plain : EvalM σ α} (same : body = BodyM.ofTotal plain) :
    Agrees table body plain :=
  same ▸ ofTotal plain

theorem bind {body : BodyM σ α} {plain : EvalM σ α} {bodyNext : α → BodyM σ β}
    {plainNext : α → EvalM σ β} (first : Agrees table body plain)
    (next : ∀ answer, Agrees table (bodyNext answer) (plainNext answer)) :
    Agrees table (body >>= bodyNext) (plain >>= plainNext) := by
  intro machine
  have settled := first machine
  rw [bind_apply]
  change Settles table _ (ExceptT.bindCont plainNext (plain machine).1 (plain machine).2)
  generalize body machine = outcome at settled ⊢
  generalize plain machine = expected at settled ⊢
  cases settled with
  | same result later =>
    cases result with
    | ok answer => exact next answer later
    | error cause => exact .same _ _
  | full text refused => exact .full text refused

theorem mapM {items : List β} {others : List γ} {body : β → BodyM σ α} {plain : γ → EvalM σ α}
    (each : List.Forall₂ (fun item other => Agrees table (body item) (plain other)) items others) :
    Agrees table (items.mapM body) (others.mapM plain) := by
  induction each with
  | nil => exact ofTotal (pure [])
  | cons first rest ih =>
    rw [List.mapM_cons, List.mapM_cons]
    exact first.bind fun _ => ih.bind fun _ => ofTotal (pure _)

theorem forM {items : List β} {others : List γ} {body : β → BodyM σ Unit} {plain : γ → EvalM σ Unit}
    (each : List.Forall₂ (fun item other => Agrees table (body item) (plain other)) items others) :
    Agrees table (items.forM body) (others.forM plain) := by
  induction each with
  | nil => exact ofTotal (pure ())
  | cons first rest ih => exact first.bind fun _ => ih

theorem ofChecked {checked : Except EvalError α} {next : α → BodyM σ Value} {plain : α → Step}
    (agrees : ∀ contents, Agrees table (next contents) (executor.perform (plain contents))) :
    Agrees table (ofResult checked >>= next) (executor.perform (.ofChecked (checked.map plain))) := by
  cases checked with
  | error cause => exact ofTotal (throw cause)
  | ok contents => exact agrees contents

theorem ofChecked_bind {checked : Except EvalError α} {next : α → BodyM σ Value}
    {rest : α → Except EvalError Step}
    (agrees : ∀ contents, checked = .ok contents →
      Agrees table (next contents) (executor.perform (.ofChecked (rest contents)))) :
    Agrees table (ofResult checked >>= next) (executor.perform (.ofChecked (checked >>= rest))) := by
  cases checked with
  | error cause => exact ofTotal (throw cause)
  | ok contents => exact agrees contents rfl

/-- A refused text changes nothing, so the table that is left refuses it too. -/
theorem intern (table : TableId) (text : String) :
    Agrees table (do return .symbol (← intern table text) : BodyM σ Value)
      (EvalM.ofStore (SymbolPrimitive.internText table text)) := by
  rintro ⟨store, state⟩
  have plain : EvalM.ofStore (SymbolPrimitive.internText table text) ⟨store, state⟩ =
      (((Store.internIn table text store).1.map .symbol).mapError .internFailed,
        ⟨(Store.internIn table text store).2, state⟩) := by
    rw [EvalM.ofStore, SymbolPrimitive.internText_eq]
  rw [plain, bind_apply, BodyM.intern]
  rcases run : Store.internIn table text store with ⟨result, later⟩
  cases result with
  | ok symbol => exact .same _ _
  | error cause =>
    have refused := congrArg Prod.fst run
    have unchanged := Store.internIn_of_error refused
    obtain rfl : store = later := congrArg Prod.snd (unchanged.symm.trans run)
    exact .full text refused

end Agrees

theorem SymbolPrimitive.body_agrees {primitive : SymbolPrimitive}
    (rule : primitive.step? executor.table args = some step) :
    Agrees executor.table (primitive.body executor.table args) (executor.perform step) := by
  unfold step? at rule
  split at rule <;> cases rule
  · exact .of_eq rfl
  · rw [body, argAt_eq rfl]
    exact .ofChecked fun symbol => .ofTotal _
  · rw [body, argAt_eq rfl]
    exact .ofChecked fun text => .intern _ text
  · exact .of_eq (Checks.argAt.sameAt_eq.trans (ofTotal_perform_ofResult _).symm)

/-! ## Rows -/

namespace ProcedurePrimitive

theorem min?_eq_length_rowsAcross (lists : List (List Value)) :
    (lists.map List.length).min?.getD 0 = (rowsAcross lists).length := by
  cases lists with
  | nil => rfl
  | cons items lists => rw [length_rowsAcross (List.cons_ne_nil items lists), Option.getD_some]

theorem columns_cons (name : String) (f : Value) (lists : List Value) :
    (columns name (f :: lists) : BodyM σ (List (List Value) × Nat)) = do
      let items ← ofResult (requireEach (requireList name) 2 lists)
      return (items, (rowsAcross items).length) := by
  rw [columns, List.length_cons, Nat.add_sub_cancel, Checks.listAt.tail.mapM_eq]
  simp only [min?_eq_length_rowsAcross]

theorem mapM_readAt {lists : List (List Value)} {i : Nat} {row : List Value}
    (there : lists.map (·[i]?) = row.map some) :
    (lists.mapM (readAt · i) : BodyM σ (List Value)) = pure row := by
  induction lists generalizing row with
  | nil =>
    obtain rfl := List.map_eq_nil_iff.mp there.symm
    rfl
  | cons items lists ih =>
    obtain ⟨item, rest, rfl, here, others⟩ := List.map_eq_cons_iff.mp there.symm
    rw [List.mapM_cons, readAt_eq here.symm, ih others.symm]
    rfl

/-- Every list has an element where there is a row. -/
theorem rowAt_eq {lists : List (List Value)} {i : Nat} {row : List Value}
    (found : (rowsAcross lists)[i]? = some row) :
    (rowAt lists i : BodyM σ (List Value)) = pure row := by
  cases lists with
  | nil => cases found
  | cons items lists =>
    exact mapM_readAt ((getElem?_rowsAcross_eq_some_iff (List.cons_ne_nil items lists)).mp found)

/-! ## Rules that ask for applications -/

/-- The procedure and the lists are read and checked in the order of the rule. -/
theorem columns_agree {primitive : ProcedurePrimitive} {f : Value} {lists : List Value}
    {next : Value → List (List Value) × Nat → BodyM σ Value}
    {plain : Value × List (List Value) → Step}
    (agrees : ∀ g items, primitive.rowsFor f lists = .ok (g, rowsAcross items) →
      Agrees table (next g (items, (rowsAcross items).length))
        (executor.perform (plain (g, rowsAcross items)))) :
    Agrees table
      (do
        let procedure ← procedureAt primitive.name (f :: lists) 0
        let columns ← columns primitive.name (f :: lists)
        next procedure columns)
      (executor.perform (.ofChecked ((primitive.rowsFor f lists).map plain))) := by
  have checks : (primitive.rowsFor f lists).map plain = (do
      let g ← requireProcedure primitive.name 1 f
      let items ← requireEach (requireList primitive.name) 2 lists
      return plain (g, rowsAcross items)) := by
    rw [rowsFor]
    cases requireProcedure primitive.name 1 f with
    | error => rfl
    | ok g => cases requireEach (requireList primitive.name) 2 lists <;> rfl
  rw [procedureAt_eq rfl, columns_cons, checks]
  simp only [bind_assoc, pure_bind]
  refine .ofChecked_bind fun g callable => .ofChecked_bind fun items proper => agrees g items ?_
  rw [rowsFor, callable, proper]
  rfl

variable {call : Value → List Value → BodyM σ Value}
  (nested : ∀ g request, (g, request) ∈ step.calls →
    Agrees executor.table (call g request) (executor.apply g request))

include nested

theorem rows_agree {f : Value} {lists : List (List Value)}
    (rows : step.calls = (rowsAcross lists).map fun row => (f, row)) :
    List.Forall₂ (fun i row => Agrees executor.table (callRow call f lists i) (executor.apply f row))
      (List.range (rowsAcross lists).length) (rowsAcross lists) := by
  rw [List.forall₂_iff_get]
  refine ⟨List.length_range, fun i _ inside => ?_⟩
  simp only [List.get_eq_getElem, List.getElem_range]
  rw [callRow, rowAt_eq (List.getElem?_eq_getElem inside), pure_bind]
  refine nested f _ ?_
  rw [rows]
  exact List.mem_map_of_mem (List.getElem_mem inside)

theorem spread_agrees {f x : Value} {rest : List Value}
    (spreads : step = .ofChecked (spread f (x :: rest))) :
    Agrees executor.table (apply.body call (f :: x :: rest)) (executor.perform step) := by
  subst spreads
  have length : (shorten (f :: x :: rest).length 1 : BodyM σ Nat) = pure (rest.length + 1) := rfl
  have leading : (slice (f :: x :: rest) 1 (rest.length + 1) : BodyM σ (List Value)) =
      pure (x :: rest).dropLast := by
    refine (slice_eq (Nat.le_add_left ..) (Nat.le_succ _)).trans ?_
    rw [List.take_succ_cons, List.dropLast_eq_take]
    rfl
  have last : (f :: x :: rest)[rest.length + 1]? = some ((x :: rest).getLast?.getD .null) := by
    have present := List.getLast?_eq_some_getLast (List.cons_ne_nil x rest)
    rw [present, Option.getD_some, ← present, List.getLast?_eq_getElem?]
    rfl
  rw [body, procedureAt_eq rfl, length]
  simp only [pure_bind, leading, listAt_eq last]
  refine .ofChecked_bind fun g callable => .ofChecked_bind fun items proper => nested g _ ?_
  rw [spread, callable, List.length_cons, proper]
  exact List.mem_singleton_self _

theorem body_agrees {primitive : ProcedurePrimitive} (rule : primitive.step? args = some step) :
    Agrees executor.table (primitive.body call args) (executor.perform step) := by
  unfold step? at rule
  split at rule <;> cases rule
  · exact .of_eq rfl
  · exact spread_agrees nested rfl
  · refine columns_agree fun f lists checked => ?_
    exact Agrees.bind (.mapM (rows_agree nested (by rw [checked]; rfl))) fun _ => .ofTotal _
  · refine columns_agree fun f lists checked => ?_
    refine Agrees.bind (.forM ?_) fun _ => .ofTotal (pure _)
    exact (rows_agree nested (by rw [checked]; rfl)).imp fun _ _ agrees =>
      agrees.bind fun _ => .ofTotal (pure ())
  · rw [body, readAt_eq rfl, pure_bind]
    exact .ofChecked fun arity => .ofTotal _

/-- A body that is entered with too few arguments does go out of range. -/
example : ((apply.body (fun _ _ => abort .tooDeep) [mapProcedure] : BodyM Unit Value) ⟨{}, ()⟩).1 =
    .error (.badSlice 1 0 1) := rfl

end ProcedurePrimitive

/-! ## Applications -/

theorem Builtin.body_agrees {builtin : Builtin} {call : Value → List Value → BodyM σ Value}
    (nested : ∀ g request, (g, request) ∈ step.calls →
      Agrees executor.table (call g request) (executor.apply g request))
    (rule : builtin.step? executor.table args = some step) :
    Agrees executor.table (builtin.body executor.table call args) (executor.perform step) := by
  cases builtin with
  | procedure primitive => exact primitive.body_agrees nested rule
  | character primitive => exact .of_eq (primitive.body_eq rule)
  | condition primitive => exact .of_eq (primitive.body_eq rule)
  | symbol primitive => exact primitive.body_agrees rule
  | boolean primitive => exact .of_eq (primitive.body_eq rule)

namespace Executor

theorem applyBody_agrees {call : Value → List Value → BodyM σ Value} {f : Value}
    (nested : ∀ g request, Issues executor.table (f, args) (g, request) →
      Agrees executor.table (call g request) (executor.apply g request)) :
    Agrees executor.table (executor.applyBody call f args) (executor.apply f args) := by
  cases f with
  | primitive p =>
    cases p with
    | builtin builtin =>
      -- The count that the arity accepts is the one for which there is a rule.
      rw [applyBody, ← builtin.isSome_step? executor.table]
      cases rule : builtin.step? executor.table args with
      | none =>
        rw [apply_builtin_eq_throw ((builtin.step?_eq_none_iff _).1 rule)]
        exact .ofTotal (throw _)
      | some step =>
        rw [apply_builtin rule]
        exact Builtin.body_agrees (fun g request asked => nested g request (.rule rule asked)) rule
    | host host => exact .ofTotal _
  | _ => exact .ofTotal _

theorem applyBodies_agrees {depth : Nat} {f : Value} (enough : totalSize args ≤ depth) :
    Agrees executor.table (executor.applyBodies depth f args) (executor.apply f args) := by
  induction depth generalizing f args with
  | zero =>
    refine applyBody_agrees fun g request issued => ?_
    exact absurd (Nat.lt_of_lt_of_le issued.totalSize_lt enough) (Nat.not_lt_zero _)
  | succ depth ih =>
    refine applyBody_agrees fun g request issued => ih ?_
    have smaller : totalSize request < totalSize args := issued.totalSize_lt
    omega

/-- No built-in takes an argument, a slice or an element of a row out of range, neither when it is
applied, with any arguments, nor in the applications that it leads to. Taken by the bodies, every
application has an outcome, the one that it has by the rules, and leaves the same machine. The only
exception is a text for which the table has no room: it brings the application to an end where the rule
has an error. -/
theorem applyBodies_inRange (executor : Executor σ) (f : Value) (args : List Value)
    (machine : Machine σ) {depth : Nat} (enough : totalSize args ≤ depth) :
    executor.applyBodies depth f args machine =
        (.ok (executor.apply f args machine).1, (executor.apply f args machine).2) ∨
      ∃ text cause later,
        executor.applyBodies depth f args machine = (.error (.shardFull cause), later) ∧
        executor.apply f args machine = (.error (.internFailed cause), later) ∧
        ((later.store.table executor.table).intern text).1 = .error cause := by
  have agrees : Agrees executor.table (executor.applyBodies depth f args) (executor.apply f args) :=
    applyBodies_agrees enough
  have settled := agrees machine
  generalize executor.applyBodies depth f args machine = outcome at settled ⊢
  generalize executor.apply f args machine = expected at settled ⊢
  cases settled with
  | same result later => exact .inl rfl
  | full text refused => exact .inr ⟨text, _, _, rfl, rfl, refused⟩

/-- Mapping `apply` over a list with `map` in it takes rows at two levels, and spreads arguments in
between. -/
theorem applyBodies_inRange_nested :
    let executor : Executor Unit := .withoutEvaluator 0 fun _ _ => throw .requiresEvaluator
    let negates : Value := .primitive (.builtin (.boolean .not))
    let row : Value := listFrom 0 [.boolean false, .boolean true] .null
    let args : List Value := [.primitive (.builtin (.procedure .apply)),
      listFrom 2 [mapProcedure] .null, listFrom 3 [negates] .null,
      listFrom 4 [listFrom 5 [row] .null] .null]
    let start : Machine Unit := ⟨{ nextIdentity := 6 }, ()⟩
    let answer : Value := listFrom 8 [listFrom 6 [.boolean true, .boolean false] .null] .null
    let finish : Machine Unit := ⟨{ nextIdentity := 9 }, ()⟩
    totalSize args ≤ 16 ∧
      executor.applyBodies 16 mapProcedure args start = (.ok (.ok answer), finish) ∧
      executor.apply mapProcedure args start = (.ok answer, finish) := by
  intro executor negates row args start answer finish
  have enough : totalSize args ≤ 16 := by decide
  have run : executor.applyBodies 16 mapProcedure args start = (.ok (.ok answer), finish) := rfl
  refine ⟨enough, run, ?_⟩
  obtain same | ⟨_, _, _, full, _⟩ := executor.applyBodies_inRange mapProcedure args start enough
  · obtain ⟨result, later⟩ := Prod.mk.inj (same.symm.trans run)
    exact Prod.ext (Except.ok.inj result) later
  · cases run.symm.trans full

end Executor

end SchemeBase
