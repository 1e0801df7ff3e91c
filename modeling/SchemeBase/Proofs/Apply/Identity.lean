import SchemeBase.Collector
import SchemeBase.Proofs.Apply.ArityReport
import SchemeBase.Proofs.Apply.Condition
import SchemeBase.Proofs.Apply.Conversion
import SchemeBase.Proofs.Apply.Course
import SchemeBase.Proofs.Apply.Rows
import SchemeBase.Proofs.Value.Eqv

/-! # Which objects are the same

Built-ins hand on the objects that they are given, and never copies of them. What they answer is made
anew: the pairs of a list, a string, a condition. Only `apply` answers an object that it did not make,
the one that the procedure answered. So an object is found again by its identity on the other side of a
built-in, and the answers of two calls have no cell in common.
-/

namespace SchemeBase

open Value Store

variable {σ : Type} {executor : Executor σ} {before middle after later : Store} {table : TableId}
  {value cell old : Value} {args : List Value}

/-! ## Cells -/

namespace Value

/-- The cells of a value: the pairs along its spine, and a string, a condition or a lambda at its end. -/
def cells : Value → List Value
  | pair id car cdr => pair id car cdr :: cdr.cells
  | string id text => [string id text]
  | lambda id code => [lambda id code]
  | condition id message irritants => [condition id message irritants]
  | _ => []

theorem cells_of_plain (plain : value.identity? = none) : value.cells = [] := by
  cases value with
  | string | pair | lambda | condition => cases plain
  | _ => rfl

/-- An object with a number is no other than one with that number. -/
theorem eqv_eq_false {id : Identity} (numbered : cell.identity? = some id)
    (other : old.identity? ≠ some id) : cell.eqv old = false := by
  cases cell <;> cases numbered <;> cases old <;>
    simp only [identity?, ne_eq, Option.some.injEq] at other <;> simp [eqv, Ne.symm other]

end Value

/-- A cell was allocated between two stores. -/
def Store.Allocated (before after : Store) (cell : Value) : Prop :=
  ∃ id, cell.identity? = some id ∧ before.nextIdentity ≤ id ∧ id < after.nextIdentity

/-- A value exists in a store: it occurs in values that were made on the way there. -/
def Store.Existing (store : Store) (value : Value) : Prop :=
  ∃ values, Made values store ∧ Occurs values value

namespace Store.Allocated

/-- What is allocated is none of the values there were. -/
theorem eqv_existing (allocated : Allocated middle after cell)
    (since : before.nextIdentity ≤ middle.nextIdentity) (existing : before.Existing old) :
    cell.eqv old = false := by
  obtain ⟨id, numbered, above, _⟩ := allocated
  obtain ⟨values, made, occurs⟩ := existing
  exact eqv_eq_false numbered (made.sharing.unused id (since.trans above) old occurs)

/-- What is allocated one after another is not the same. -/
theorem eqv_later {other : Value} {start : Store} (allocated : Allocated before middle cell)
    (again : Allocated start later other) (since : middle.nextIdentity ≤ start.nextIdentity) :
    cell.eqv other = false := by
  obtain ⟨id, numbered, _, below⟩ := allocated
  obtain ⟨number, numberedToo, above, _⟩ := again
  refine eqv_eq_false numbered fun same => ?_
  cases numberedToo.symm.trans same
  exact Nat.lt_irrefl _ (below.trans_le (since.trans above))

end Store.Allocated

/-- The cells of a chain have the numbers of the chain. -/
theorem exists_of_mem_cells_listFrom {items : List Value} {first : Nat}
    (member : cell ∈ (listFrom first items .null).cells) :
    ∃ id : Nat, cell.identity? = some id ∧ first ≤ id ∧ id < first + items.length := by
  induction items generalizing first with
  | nil => cases member
  | cons item items ih =>
    rw [listFrom_cons, cells, List.mem_cons] at member
    rw [List.length_cons]
    obtain rfl | member := member
    · exact ⟨first, rfl, Nat.le_refl first, by omega⟩
    · obtain ⟨id, numbered, above, below⟩ := ih member
      exact ⟨id, numbered, by omega, by omega⟩

/-! ## What steps allocate -/

/-- A step answers nothing but what it has allocated, or what has no cells. A step that is a single call
answers what the procedure does, and is none of these. -/
def Step.Allocates (store : Store) : Step → Prop
  | .finish action => ∀ value later, action store = (.ok value, later) →
    ∀ cell ∈ value.cells, store.Allocated later cell
  | .call .. => False
  | .mapRows .. | .visitRows .. => True

namespace Step.Allocates

variable {store : Store}

theorem fail (error : EvalError) : Allocates store (.fail error) :=
  fun _ _ run => by cases run

theorem answer (plain : value.identity? = none) : Allocates store (.answer value) := by
  intro _ _ run
  cases run
  rw [cells_of_plain plain]
  exact List.forall_mem_nil _

theorem ofResult {result : Except EvalError Value}
    (plain : ∀ value, result = .ok value → value.identity? = none) :
    Allocates store (.ofResult result) := by
  cases result with
  | error cause => exact fail cause
  | ok value => exact answer (plain value rfl)

theorem ofResult_map {α : Type} {checked : Except EvalError α} {f : α → Value}
    (plain : ∀ contents, (f contents).identity? = none) :
    Allocates store (.ofResult (checked.map f)) := by
  refine ofResult fun value success => ?_
  obtain ⟨contents, _, rfl⟩ := map_eq_ok_iff.mp success
  exact plain contents

theorem ofResult_bind {α : Type} {checked : Except EvalError α} {next : α → Except EvalError Value}
    (plain : ∀ contents value, next contents = .ok value → value.identity? = none) :
    Allocates store (.ofResult (checked >>= next)) := by
  refine ofResult fun value success => ?_
  obtain ⟨contents, _, rest⟩ := bind_eq_ok_iff.mp success
  exact plain contents value rest

theorem ofChecked_map {α : Type} {checked : Except EvalError α} {next : α → Step}
    (each : ∀ contents, Allocates store (next contents)) :
    Allocates store (.ofChecked (checked.map next)) := by
  cases checked with
  | error cause => exact fail cause
  | ok contents => exact each contents

/-- A value that takes the next number is allocated. -/
theorem single {action : StoreM EvalError Value}
    (made : action store = (.ok value, (allocate 1 store).2))
    (numbered : value.identity? = some store.nextIdentity) (alone : value.cells = [value]) :
    Allocates store (.finish action) := by
  intro value later run
  cases made.symm.trans run
  rw [alone]
  exact List.forall_mem_singleton.mpr
    ⟨_, numbered, Nat.le_refl _, Nat.lt_succ_self store.nextIdentity⟩

theorem list (items : List Value) : Allocates store (.finish (newList items)) := by
  intro value later run cell member
  cases run
  exact exists_of_mem_cells_listFrom member

theorem character {primitive : CharacterPrimitive} {step : Step}
    (rule : primitive.step? args = some step) : Allocates store step := by
  unfold CharacterPrimitive.step? at rule
  split at rule <;> cases rule
  · exact answer rfl
  · exact ofResult_bind fun _ _ verdict => by cases verdict; rfl
  · exact ofResult_map fun _ => rfl
  · exact ofResult_map fun _ => rfl
  · refine ofResult_bind fun code _ found => ?_
    split at found <;> cases found
    rfl
  · exact ofResult_map fun _ => rfl
  · exact ofResult_map fun _ => rfl

theorem boolean {primitive : BooleanPrimitive} {step : Step}
    (rule : primitive.step? args = some step) : Allocates store step := by
  unfold BooleanPrimitive.step? at rule
  split at rule <;> cases rule
  case h_6 => exact ofResult_bind fun _ _ verdict => by cases verdict; rfl
  all_goals exact answer rfl

theorem condition {primitive : ConditionPrimitive} {step : Step}
    (rule : primitive.step? table args = some step) : Allocates store step := by
  unfold ConditionPrimitive.step? at rule
  split at rule <;> cases rule
  · exact fun _ _ run => by cases run
  · exact fun _ _ run => by cases run
  · exact answer rfl
  · exact ofChecked_map fun _ => single rfl rfl rfl
  · exact ofChecked_map fun contents => list contents.2
  · exact single rfl rfl rfl

theorem spell (symbol : Symbol) :
    Allocates store (.finish (SymbolPrimitive.spell table symbol)) := by
  cases read : (store.table table).resolve? symbol with
  | none =>
    intro value later run
    rw [SymbolPrimitive.spell, StoreM.get_bind, read] at run
    cases run
  | some text =>
    have made : SymbolPrimitive.spell table symbol store =
        (.ok (.string store.nextIdentity text), (allocate 1 store).2) := by
      rw [SymbolPrimitive.spell, StoreM.get_bind, read]
      rfl
    exact single made rfl rfl

theorem internText (text : String) :
    Allocates store (.finish (SymbolPrimitive.internText table text)) := by
  intro value later run
  rw [SymbolPrimitive.internText_eq] at run
  cases answer : (internIn table text store).1 with
  | error cause =>
    rw [answer] at run
    cases run
  | ok symbol =>
    rw [answer] at run
    cases run
    exact List.forall_mem_nil _

theorem symbol {primitive : SymbolPrimitive} {step : Step}
    (rule : primitive.step? table args = some step) : Allocates store step := by
  unfold SymbolPrimitive.step? at rule
  split at rule <;> cases rule
  · exact answer rfl
  · exact ofChecked_map spell
  · exact ofChecked_map internText
  · exact ofResult_bind fun _ _ verdict => by cases verdict; rfl

theorem arityPair (arity : Arity) :
    Allocates store (.finish (ProcedurePrimitive.arityPair arity)) := by
  obtain ⟨lo, hi, made, shape, _⟩ := ProcedurePrimitive.exists_arityPair arity
  have plain : hi.identity? = none := by
    obtain rfl | ⟨max, rfl⟩ := shape <;> rfl
  rw [made]
  exact single rfl rfl (by rw [cells, cells_of_plain plain])

theorem procedure {primitive : ProcedurePrimitive} {step : Step} (other : primitive ≠ .apply)
    (rule : primitive.step? args = some step) : Allocates store step := by
  unfold ProcedurePrimitive.step? at rule
  split at rule <;> cases rule
  · exact answer rfl
  · exact absurd rfl other
  · exact ofChecked_map fun _ => trivial
  · exact ofChecked_map fun _ => trivial
  · exact ofChecked_map arityPair

/-- The rule of every built-in but one. -/
theorem builtin {builtin : Builtin} {step : Step} (other : builtin ≠ .procedure .apply)
    (rule : builtin.step? table args = some step) : Allocates store step := by
  cases builtin with
  | procedure primitive => exact procedure (fun same => other (congrArg _ same)) rule
  | character primitive => exact character rule
  | condition primitive => exact condition rule
  | symbol primitive => exact symbol rule
  | boolean primitive => exact boolean rule

theorem conclude {step : Step} {answers : List Value} {middle last : Machine σ}
    (allocates : step.Allocates middle.store)
    (concluded : step.conclude answers middle = (.ok value, last)) :
    ∀ cell ∈ value.cells, middle.store.Allocated last.store cell := by
  cases step with
  | finish action =>
    rcases run : action middle.store with ⟨result, later⟩
    have outcome : (result, (⟨later, middle.state⟩ : Machine σ)) = (.ok value, last) := by
      rw [← concluded, Step.conclude, EvalM.ofStore, run]
    cases outcome
    exact allocates value later run
  | call => cases allocates
  | mapRows =>
    cases concluded
    exact fun cell member => exists_of_mem_cells_listFrom member
  | visitRows =>
    cases concluded
    exact List.forall_mem_nil _

end Step.Allocates

/-! ## What calls share -/

section Calls

variable {builtin : Builtin} {machine last : Machine σ}

/-- The cells of an answer are allocated when the calls of the built-in have been answered. -/
theorem exists_allocated (other : builtin ≠ .procedure .apply)
    (answered : executor.apply (.primitive (.builtin builtin)) args machine = (.ok value, last)) :
    ∃ step answers middle, builtin.step? executor.table args = some step ∧
      Answers executor step.calls machine answers middle ∧
      ∀ cell ∈ value.cells, middle.store.Allocated last.store cell := by
  cases rule : builtin.step? executor.table args with
  | none =>
    rw [Executor.apply_builtin_eq_throw ((builtin.step?_eq_none_iff _).mp rule)] at answered
    cases answered
  | some step =>
    rw [Executor.apply_builtin rule] at answered
    obtain ⟨answers, middle, calls⟩ | ⟨_, _, _, _, _, split, fails⟩ :=
      answers_or_failsAt executor step.calls machine
    · rw [calls.perform_eq] at answered
      have allocates : step.Allocates middle.store := .builtin other rule
      exact ⟨step, answers, middle, rfl, calls, allocates.conclude answered⟩
    · cases (fails.perform_eq split).symm.trans answered

variable (conserves : executor.Conserves)

include conserves

/-- The cells of an answer are none of the values that there were before the call. -/
theorem cells_new (other : builtin ≠ .procedure .apply)
    (answered : executor.apply (.primitive (.builtin builtin)) args machine = (.ok value, last)) :
    ∀ cell ∈ value.cells, ∀ old, machine.store.Existing old → cell.eqv old = false := by
  obtain ⟨_, _, middle, _, calls, allocated⟩ := exists_allocated other answered
  intro cell member old existing
  exact (allocated cell member).eqv_existing (calls.continues.nextIdentity_le conserves) existing

variable {second : Builtin} {more : List Value} {answer : Value} {start final : Machine σ}

/-- The answers of two calls have no cell in common, whether one call is made after the other or in its
course. -/
theorem cells_apart (other : builtin ≠ .procedure .apply) (too : second ≠ .procedure .apply)
    (answered : executor.apply (.primitive (.builtin builtin)) args machine = (.ok value, last))
    (again : executor.apply (.primitive (.builtin second)) more start = (.ok answer, final))
    (order : Continues executor last start ∨
      During executor ((.primitive (.builtin builtin), args), machine)
        ((.primitive (.builtin second), more), start)) :
    ∀ cell ∈ value.cells, ∀ one ∈ answer.cells, cell.eqv one = false := by
  obtain ⟨step, _, middle, rule, calls, allocated⟩ := exists_allocated other answered
  obtain ⟨_, _, later, _, callsToo, allocatedToo⟩ := exists_allocated too again
  intro cell member one memberToo
  rcases order with sequel | ⟨entry, entered, _, ends⟩
  · have since := Continues.nextIdentity_le conserves (sequel.trans callsToo.continues)
    exact (allocated cell member).eqv_later (allocatedToo one memberToo) since
  · -- The inner call has ended when the outer one comes to allocate its answer.
    have made := mem_trace_iff.mpr entered
    rw [Executor.trace_of_rule rule] at made
    have ended : (executor.make (.primitive (.builtin second), more) start).2 = final :=
      congrArg Prod.snd again
    rw [ended] at ends
    have since := Continues.nextIdentity_le conserves (ends.trans (calls.continues_of_entry made))
    rw [eqv_comm]
    exact (allocatedToo one memberToo).eqv_later (allocated cell member) since

end Calls

/-! ## Objects on both sides of a call -/

/-- Objects are the same, one by one. -/
abbrev SameObjects : List Value → List Value → Prop :=
  List.Forall₂ fun a b => a.eqv b = true

theorem sameObjects_refl (values : List Value) : SameObjects values values :=
  List.forall₂_same.mpr fun value _ => eqv_refl value

/-- The objects that lists have at a place. -/
def SameRow (i : Nat) : List Value → List (List Value) → Prop :=
  List.Forall₂ fun arg column => ∃ item, column[i]? = some item ∧ arg.eqv item = true

theorem sameRow {columns : List (List Value)} {row : List Value} {i : Nat}
    (across : columns.map (·[i]?) = row.map some) : SameRow i row columns := by
  induction row generalizing columns with
  | nil =>
    obtain rfl := List.map_eq_nil_iff.mp across
    exact .nil
  | cons arg row ih =>
    obtain ⟨column, columns, rfl, found, rest⟩ := List.map_eq_cons_iff.mp across
    exact .cons ⟨arg, found, eqv_refl arg⟩ (ih rest)

namespace Executor

/-- Objects go through the calls of built-ins as they are, and what is answered is made anew. -/
structure KeepsObjects (executor : Executor σ) : Prop where
  /-- `apply` calls the procedure once, with its other arguments and the elements of the list. -/
  spread : ∀ (p : Value) (init : List Value) (list : Value) (items : List Value) (machine : Machine σ),
    p.isProcedure = true → list.toList? = some items →
    ∃ g request, executor.trace ((applyProcedure, p :: (init ++ [list])), machine) =
      [((g, request), machine)] ∧ g.eqv p = true ∧ SameObjects request (init ++ items)
  /-- `map` and `for-each` call the procedure with the elements at one place after another. -/
  rows : ∀ rowwise ∈ [mapProcedure, forEachProcedure], ∀ (f : Value) (lists : List Value)
    (columns : List (List Value)) (machine : Machine σ), lists.map toList? = columns.map some →
    ∀ (i : Nat) (entry : Entry σ),
      (executor.trace ((rowwise, f :: lists), machine))[i]? = some entry →
        entry.1.1.eqv f = true ∧ SameRow i entry.1.2 columns
  /-- `map` lists what was answered. -/
  mapped : ∀ (f : Value) (lists : List Value) (machine : Machine σ) (result : Value)
    (last : Machine σ), executor.apply mapProcedure (f :: lists) machine = (.ok result, last) →
    ∃ elements answers middle, result.toList? = some elements ∧ SameObjects elements answers ∧
      Answers executor ((executor.trace ((mapProcedure, f :: lists), machine)).map Prod.fst) machine
        answers middle
  /-- A condition that is made, or made and raised, has the irritants that it is given. -/
  kept : ∀ (first : Value) (irritants : List Value) (machine : Machine σ),
    ∃ message made last text payload failed,
      executor.apply makeCondition (first :: irritants) machine = (.ok made, last) ∧
      executor.apply errorProcedure (first :: irritants) machine =
        (.error (.raised text payload), failed) ∧
      IsCondition message irritants made ∧ IsCondition message irritants payload
  /-- The list of the irritants has the irritants. -/
  irritants : ∀ (id : Identity) (message : String) (irritants : List Value) (machine : Machine σ),
    ∃ list elements last,
      executor.apply conditionIrritantsOf [.condition id message irritants] machine =
        (.ok list, last) ∧ list.toList? = some elements ∧ SameObjects elements irritants
  /-- The message is answered as a string, -/
  message : ∀ (id : Identity) (message : String) (irritants : List Value) (machine : Machine σ),
    ∃ number last, executor.apply conditionMessageOf [.condition id message irritants] machine =
      (.ok (.string number message), last)
  /-- and so is the spelling of a symbol. -/
  spelling : ∀ (symbol : Symbol) (text : String) (machine : Machine σ),
    (machine.store.table executor.table).resolve? symbol = some text →
    ∃ number last, executor.apply symbolToString [.symbol symbol] machine =
      (.ok (.string number text), last)
  /-- The cells of an answer are none of the values that there were before the call, -/
  new : ∀ (builtin : Builtin) (args : List Value) (machine : Machine σ) (result : Value)
    (last : Machine σ), builtin ≠ .procedure .apply →
    executor.apply (.primitive (.builtin builtin)) args machine = (.ok result, last) →
    ∀ cell ∈ result.cells, ∀ old, machine.store.Existing old → cell.eqv old = false
  /-- and are no cells of another answer. -/
  apart : ∀ (first second : Builtin) (args more : List Value) (machine start : Machine σ)
    (result answer : Value) (last final : Machine σ),
    first ≠ .procedure .apply → second ≠ .procedure .apply →
    executor.apply (.primitive (.builtin first)) args machine = (.ok result, last) →
    executor.apply (.primitive (.builtin second)) more start = (.ok answer, final) →
    Continues executor last start ∨
      During executor ((.primitive (.builtin first), args), machine)
        ((.primitive (.builtin second), more), start) →
    ∀ cell ∈ result.cells, ∀ one ∈ answer.cells, cell.eqv one = false
  /-- Objects that are the same are not told apart. -/
  same : ∀ primitive ∈ [BooleanPrimitive.eq, .eqv], ∀ (a b c d : Value) (machine : Machine σ),
    a.eqv c = true → b.eqv d = true →
    executor.apply (.primitive (.builtin (.boolean primitive))) [a, b] machine =
      (.ok (.boolean (c.eqv d)), machine)

section Across

variable {f : Value} {lists : List Value} {machine : Machine σ}

/-- The rows that a procedure is called with are those across the lists. -/
theorem sameRow_of_trace {columns : List (List Value)} {i : Nat} {entry : Entry σ}
    (proper : lists.map toList? = columns.map some)
    (found : (executor.trace ((mapProcedure, f :: lists), machine))[i]? = some entry) :
    entry.1.1.eqv f = true ∧ SameRow i entry.1.2 columns := by
  have given : lists ≠ [] := by
    rintro rfl
    cases found
  have checks := step?_map executor.table f given
  obtain ⟨refusal, refuses⟩ | ⟨callable, _⟩ := refuses_or_proper f lists
  · rw [(refuses.apply_eq checks machine).2] at found
    cases found
  · rw [trace_of_rule (step?_of_proper checks callable proper)] at found
    obtain ⟨asked, _⟩ := getElem?_entries found
    rw [Step.calls, List.getElem?_map, Option.map_eq_some_iff] at asked
    obtain ⟨row, across, same⟩ := asked
    rw [← same]
    have some_column : columns ≠ [] := by
      rintro rfl
      exact given (List.map_eq_nil_iff.mp proper)
    exact ⟨eqv_refl f, sameRow ((getElem?_rowsAcross_eq_some_iff some_column).mp across)⟩

/-- The list that `map` answers has the answers of the calls. -/
theorem exists_answers_of_map {result : Value} {last : Machine σ}
    (answered : executor.apply mapProcedure (f :: lists) machine = (.ok result, last)) :
    ∃ answers middle, result.toList? = some answers ∧
      Answers executor ((executor.trace ((mapProcedure, f :: lists), machine)).map Prod.fst) machine
        answers middle := by
  have given : lists ≠ [] := by
    rintro rfl
    rw [apply_builtin_eq_throw rfl] at answered
    cases answered
  have checks := step?_map executor.table f given
  obtain ⟨refusal, refuses⟩ | ⟨callable, columns, proper⟩ := refuses_or_proper f lists
  · cases (refuses.apply_eq checks machine).1.symm.trans answered
  · have rule := step?_of_proper checks callable proper
    rw [apply_builtin rule] at answered
    rw [trace_of_rule rule]
    obtain ⟨answers, middle, calls⟩ | ⟨_, _, _, _, _, split, fails⟩ := answers_or_failsAt executor
      (Step.mapRows f (rowsAcross columns)).calls machine
    · cases calls.perform_eq.symm.trans answered
      rw [calls.map_fst_entries]
      exact ⟨answers, middle, toList?_listFrom _ answers, calls⟩
    · cases (fails.perform_eq split).symm.trans answered

end Across

/-- Under an executor that gives no number of an allocation back, objects go through the calls of
built-ins as they are, and what is answered is made anew, however the calls are nested or follow one
another. -/
theorem keepsObjects (executor : Executor σ) (conserves : executor.Conserves) :
    executor.KeepsObjects where
  spread p init list items machine callable spine := by
    refine ⟨p, init ++ items, ?_, eqv_refl p, sameObjects_refl _⟩
    rw [trace_of_rule (step?_apply executor.table callable spine), Step.calls, entries]
    split <;> rfl
  rows rowwise member f lists columns machine proper i entry found := by
    obtain rfl | rfl := List.mem_pair.mp member
    · exact sameRow_of_trace proper found
    · have given : lists ≠ [] := by
        rintro rfl
        cases found
      rw [executor.trace_forEach f given] at found
      exact sameRow_of_trace proper found
  mapped f lists machine result last answered := by
    obtain ⟨answers, middle, listed, calls⟩ := exists_answers_of_map answered
    exact ⟨answers, answers, middle, listed, sameObjects_refl answers, calls⟩
  kept first irritants machine :=
    ⟨_, _, _, _, _, _, executor.apply_makeCondition first irritants machine,
      executor.apply_error first irritants machine, isCondition _ _ _, isCondition _ _ _⟩
  irritants id message irritants machine :=
    ⟨_, _, _, executor.apply_conditionIrritantsOf id message irritants machine,
      toList?_listFrom _ irritants, sameObjects_refl irritants⟩
  message id message irritants machine :=
    ⟨_, _, executor.apply_conditionMessageOf id message irritants machine⟩
  spelling symbol text machine read := ⟨_, _, apply_symbolToString read machine.state⟩
  new builtin args machine result last other answered := cells_new conserves other answered
  apart first second args more machine start result answer last final other too answered again :=
    cells_apart conserves other too answered again
  same primitive member a b c d machine left right := by
    have verdict : c.eqv d = a.eqv b := by
      rw [← eqv_congr left d, eqv_comm a d, ← eqv_congr right a, eqv_comm b a]
    rw [verdict]
    obtain rfl | rfl := List.mem_pair.mp member
    · exact apply_of_answer rfl machine
    · exact apply_of_answer rfl machine

/-- Under the small evaluator, `map` has `apply` list the irritants of a condition. The list that is
answered at the end is none of the lists before, and neither is it the list that was answered inside. -/
theorem keepsObjects_nested :
    let executor := Evaluator.executor 0 Collector.call 1
    let condition : Value := .condition 0 "m" [.integer 5]
    let lists : List Value := [listFrom 1 [conditionIrritantsOf] .null,
      listFrom 3 [listFrom 2 [condition] .null] .null]
    let machine : Machine CallLog := ⟨{ nextIdentity := 4 }, #[]⟩
    let inner : Value := listFrom 4 [.integer 5] .null
    let outer : Value := listFrom 5 [inner] .null
    executor.Conserves ∧
      (executor.apply mapProcedure (applyProcedure :: lists) machine).1 = .ok outer ∧
      (∀ old ∈ lists, machine.store.Existing old ∧ outer.eqv old = false) ∧
      outer.eqv inner = false := by
  intro executor condition lists machine inner outer
  have conserves : executor.Conserves :=
    Evaluator.conserves_executor 0 Collector.call (fun _ _ _ => Nat.le_add_right ..) 1
  have made : Made [listFrom 3 [listFrom 2 [condition] .null] .null, listFrom 2 [condition] .null,
      listFrom 1 [conditionIrritantsOf] .null, condition, conditionIrritantsOf, .integer 5]
      machine.store := by
    have plain : Made [conditionIrritantsOf, .integer 5] {} := .plain (.plain (.start {}) rfl) rfl
    have first : Made [condition, conditionIrritantsOf, .integer 5] { nextIdentity := 1 } :=
      plain.call (.condition "m" (by simp))
    have single {values : List Value} {store : Store} {item : Value} (made : Made values store)
        (member : item ∈ values) :
        Made (listFrom store.nextIdentity [item] .null :: values) (allocate 1 store).2 :=
      made.call (.list (List.forall_mem_singleton.mpr member))
    have second := single first (.tail _ (.head _))
    have third := single second (.tail _ (.head _))
    exact single third (.head _)
  have existing (old : Value) (member : old ∈ lists) : machine.store.Existing old := by
    refine ⟨_, made, occurs_of_mem ?_⟩
    obtain rfl | rfl := List.mem_pair.mp member <;> simp
  -- The calls, from the inside out.
  let irritantsCall : Entry CallLog := ((conditionIrritantsOf, [condition]), machine)
  let applyCall : Entry CallLog :=
    ((applyProcedure, [conditionIrritantsOf, listFrom 2 [condition] .null]), machine)
  let mapCall : Entry CallLog := ((mapProcedure, applyProcedure :: lists), machine)
  let between : Machine CallLog := ⟨{ nextIdentity := 5 }, #[]⟩
  have listed : executor.make irritantsCall.1 machine = (.ok inner, between) :=
    executor.apply_conditionIrritantsOf 0 "m" [.integer 5] machine
  have spreadRule : Builtin.step? 0 (.procedure .apply)
      [conditionIrritantsOf, listFrom 2 [condition] .null] =
      some (.call conditionIrritantsOf [condition]) := rfl
  have spread : executor.make applyCall.1 machine = (.ok inner, between) := by
    rw [make, apply_builtin spreadRule]
    exact listed
  have mapRule : Builtin.step? 0 (.procedure .map) (applyProcedure :: lists) =
      some (.mapRows applyProcedure [[conditionIrritantsOf, listFrom 2 [condition] .null]]) := rfl
  have mapped : executor.apply mapProcedure (applyProcedure :: lists) machine =
      (.ok outer, ⟨{ nextIdentity := 6 }, #[]⟩) := by
    rw [apply_builtin mapRule, Answers.perform_eq (.cons spread (.nil between))]
    rfl
  have nested : Relation.TransGen (Enters executor) mapCall irritantsCall :=
    .tail (.single (.rule mapRule rfl (.nil machine))) (.rule spreadRule rfl (.nil machine))
  have keeps := executor.keepsObjects conserves
  refine ⟨conserves, by rw [mapped], fun old member => ⟨existing old member, ?_⟩, ?_⟩
  · exact keeps.new _ _ _ _ _ (by decide) mapped outer List.mem_cons_self old (existing old member)
  · exact keeps.apart _ _ _ _ _ _ _ _ _ _ (by decide) (by decide) mapped listed
      (.inr (during_of_nested nested)) outer List.mem_cons_self inner List.mem_cons_self

end Executor

end SchemeBase
