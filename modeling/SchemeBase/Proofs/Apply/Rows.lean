import SchemeBase.Proofs.Apply.Trace

/-! # Procedures across lists

`map` and `for-each` apply a procedure to the rows across their lists, the first elements first. There
are as many rows as the shortest list has elements. The procedure is checked first and then the lists
in order, before any row is taken, so a refused argument is the only error that the two primitives have
of their own. Every other one is that of the first row whose application fails.
-/

namespace SchemeBase

open Value

variable {σ : Type} {executor : Executor σ} {machine : Machine σ} {f : Value} {lists : List Value}
  {columns : List (List Value)} {refusal : String → EvalError}

/-- The primitive that lists the answers for all rows. -/
abbrev mapProcedure : Value := .primitive (.builtin (.procedure .map))

/-- The primitive that goes through all rows for their effects. -/
abbrev forEachProcedure : Value := .primitive (.builtin (.procedure .forEach))

/-! ## Rows by place -/

/-- There are as many rows as the shortest list has elements. -/
theorem length_rowsAcross (given : columns ≠ []) :
    (columns.map List.length).min? = some (rowsAcross columns).length := by
  fun_induction rowsAcross columns with
  | case1 => exact absurd rfl given
  | case2 items => simp
  | case3 items lists other ih =>
    rw [List.map_cons, List.min?_cons, ih other, List.length_zipWith]
    rfl

/-- The row at a place has the elements that the lists have there. -/
theorem getElem?_rowsAcross_eq_some_iff (given : columns ≠ []) {i : Nat} {row : List Value} :
    (rowsAcross columns)[i]? = some row ↔ columns.map (·[i]?) = row.map some := by
  fun_induction rowsAcross columns generalizing row with
  | case1 => exact absurd rfl given
  | case2 items =>
    rw [List.getElem?_map, Option.map_eq_some_iff, List.map_singleton]
    constructor
    · rintro ⟨item, found, rfl⟩
      rw [found, List.map_singleton]
    · intro same
      obtain ⟨item, rfl, found⟩ := List.map_eq_singleton_iff.mp same.symm
      exact ⟨item, found.symm, rfl⟩
  | case3 items lists other ih =>
    rw [List.getElem?_zipWith_eq_some, List.map_cons]
    constructor
    · rintro ⟨item, rest, found, across, rfl⟩
      rw [found, (ih other).mp across, List.map_cons]
    · intro same
      obtain ⟨item, rest, rfl, found, across⟩ := List.map_eq_cons_iff.mp same.symm
      exact ⟨item, rest, found.symm, (ih other).mpr across.symm, rfl⟩

/-! ## Checks of the arguments -/

/-- How the arguments are refused, by the name of the primitive that refuses them: the first one is
not a procedure, or it is one and some list is not a proper one. The position is that of the first
such list. -/
inductive Refuses (f : Value) (lists : List Value) : (String → EvalError) → Prop
  | procedure (other : f.isProcedure = false) :
      Refuses f lists fun name => .typeMismatch name 1 .procedure f.type
  | list {before after : List Value} {list : Value} (callable : f.isProcedure = true)
      (split : lists = before ++ list :: after) (proper : ∀ earlier ∈ before, earlier.toList?.isSome)
      (improper : list.toList? = none) :
      Refuses f lists fun name => .improperList name (before.length + 2)

/-- Either all lists are proper or one of them is the first that is not. -/
theorem proper_or_improper (lists : List Value) :
    (∃ columns : List (List Value), lists.map toList? = columns.map some) ∨
      ∃ before list after, lists = before ++ list :: after ∧
        (∀ earlier ∈ before, earlier.toList?.isSome) ∧ list.toList? = none :=
  contents_or_first_without toList? lists

theorem toList?_ne_none_of_proper (proper : lists.map toList? = columns.map some) :
    ∀ list ∈ lists, list.toList? ≠ none :=
  read_ne_none proper

theorem refuses_or_proper (f : Value) (lists : List Value) :
    (∃ refusal, Refuses f lists refusal) ∨
      f.isProcedure = true ∧ ∃ columns : List (List Value), lists.map toList? = columns.map some := by
  cases callable : f.isProcedure with
  | false => exact .inl ⟨_, .procedure callable⟩
  | true =>
    obtain columns | ⟨before, list, after, split, proper, improper⟩ := proper_or_improper lists
    · exact .inr ⟨rfl, columns⟩
    · exact .inl ⟨_, .list callable split proper improper⟩

theorem requireLists_of_improper {before after : List Value} {list : Value}
    (proper : ∀ earlier ∈ before, earlier.toList?.isSome) (improper : list.toList? = none)
    (name : String) (position : Nat) :
    requireEach (requireList name) position (before ++ list :: after) =
      .error (.improperList name (position + before.length)) := by
  refine requireEach_of_error (fun earlier member _ => ?_) (by rw [requireList, improper])
  obtain ⟨items, read⟩ := Option.isSome_iff_exists.mp (proper earlier member)
  exact ⟨items, requireList_eq_ok_iff.mpr read⟩

theorem Refuses.rowsFor_eq (refuses : Refuses f lists refusal) (primitive : ProcedurePrimitive) :
    primitive.rowsFor f lists = .error (refusal primitive.name) := by
  cases refuses with
  | procedure other =>
    rw [ProcedurePrimitive.rowsFor, requireProcedure, requireArg, other]
    rfl
  | list callable split proper improper =>
    have checked : requireProcedure primitive.name 1 f = .ok f :=
      requireProcedure_eq_ok_iff.mpr ⟨callable, rfl⟩
    rw [ProcedurePrimitive.rowsFor, checked, split]
    change (requireEach (requireList primitive.name) 2 _ >>= _) = _
    rw [requireLists_of_improper proper improper, Nat.add_comm]
    rfl

/-! ## From the checks to the rows -/

theorem step?_map (table : TableId) (f : Value) (given : lists ≠ []) :
    Builtin.step? table (.procedure .map) (f :: lists) =
      some (.ofChecked ((ProcedurePrimitive.map.rowsFor f lists).map fun (f, rows) => .mapRows f rows)) := by
  obtain ⟨list, others, rfl⟩ := List.exists_cons_of_ne_nil given
  rfl

theorem step?_forEach (table : TableId) (f : Value) (given : lists ≠ []) :
    Builtin.step? table (.procedure .forEach) (f :: lists) =
      some (.ofChecked
        ((ProcedurePrimitive.forEach.rowsFor f lists).map fun (f, rows) => .visitRows f rows)) := by
  obtain ⟨list, others, rfl⟩ := List.exists_cons_of_ne_nil given
  rfl

section Rowwise

variable {primitive : ProcedurePrimitive} {table : TableId} {rowwise : Value × List (List Value) → Step}

theorem step?_of_proper
    (rule : Builtin.step? table (.procedure primitive) (f :: lists) =
      some (.ofChecked ((primitive.rowsFor f lists).map rowwise)))
    (callable : f.isProcedure = true) (proper : lists.map toList? = columns.map some) :
    Builtin.step? table (.procedure primitive) (f :: lists) =
      some (rowwise (f, rowsAcross columns)) := by
  have checked : primitive.rowsFor f lists = .ok (f, rowsAcross columns) :=
    ProcedurePrimitive.rowsFor_eq_ok_iff.mpr ⟨⟨callable, rfl⟩, columns, proper, rfl⟩
  rw [rule, checked]
  rfl

/-- Refused arguments are the error of the primitive, and it makes no call. -/
theorem Refuses.apply_eq
    (rule : Builtin.step? executor.table (.procedure primitive) (f :: lists) =
      some (.ofChecked ((primitive.rowsFor f lists).map rowwise)))
    (refuses : Refuses f lists refusal) (machine : Machine σ) :
    executor.apply (.primitive (.builtin (.procedure primitive))) (f :: lists) machine =
        (.error (refusal primitive.name), machine) ∧
      executor.trace ((.primitive (.builtin (.procedure primitive)), f :: lists), machine) = [] := by
  rw [refuses.rowsFor_eq primitive] at rule
  rw [Executor.apply_builtin rule, Executor.trace_of_rule rule]
  exact ⟨rfl, rfl⟩

end Rowwise

namespace Executor

/-- Under any executor, mapping a procedure applies it to the rows in order, as many as the shortest
list has elements, each on the machine that the last application left. If they all succeed, the
answers are listed. The first one that fails is the last one that is made, and its error and its
machine are the outcome. Without a procedure, and otherwise without proper lists, the outcome is an
error at the first position that is at fault, and nothing happens. -/
theorem apply_map (executor : Executor σ) (f : Value) (lists : List Value) (given : lists ≠ [])
    (machine : Machine σ) :
    let outcome := executor.apply mapProcedure (f :: lists) machine
    let made := executor.trace ((mapProcedure, f :: lists), machine)
    (f.isProcedure = true → ∀ columns : List (List Value), lists.map toList? = columns.map some →
      ∃ rows : List (List Value), (columns.map List.length).min? = some rows.length ∧
        (∀ (i : Nat) (row : List Value), rows[i]? = some row ↔ columns.map (·[i]?) = row.map some) ∧
        let calls : List Call := rows.map fun row => (f, row)
        ((∃ answers later, Answers executor calls machine answers later) ∨
          ∃ before call after error later, calls = before ++ call :: after ∧
            FailsAt executor before call machine error later) ∧
        (∀ answers later, Answers executor calls machine answers later →
          made.map Prod.fst = calls ∧ answers.length = rows.length ∧
          ∃ list, list.toList? = some answers ∧
            outcome = (.ok list, ⟨(Store.allocate rows.length later.store).2, later.state⟩)) ∧
        (∀ before call after error later, calls = before ++ call :: after →
          FailsAt executor before call machine error later →
            made.map Prod.fst = before ++ [call] ∧ outcome = (.error error, later)) ∧
        ∀ i entry, made[i]? = some entry →
          ∃ answers, Answers executor (calls.take i) machine answers entry.2) ∧
    (f.isProcedure = false →
      made = [] ∧ outcome = (.error (.typeMismatch "map" 1 .procedure f.type), machine)) ∧
    (f.isProcedure = true → (∃ list ∈ lists, list.toList? = none) →
      ∃ before list after, lists = before ++ list :: after ∧
        (∀ earlier ∈ before, earlier.toList?.isSome) ∧ list.toList? = none ∧
        made = [] ∧ outcome = (.error (.improperList "map" (before.length + 2)), machine)) := by
  intro outcome made
  have checks := step?_map executor.table f given
  refine ⟨fun callable columns proper => ?_, fun other => ?_, fun callable improper => ?_⟩
  · have rule := step?_of_proper checks callable proper
    have some_column : columns ≠ [] := by
      rintro rfl
      exact given (List.map_eq_nil_iff.mp proper)
    have traced : made = executor.entries ((rowsAcross columns).map fun row => (f, row)) machine :=
      trace_of_rule rule machine
    have performed : outcome = executor.perform (.mapRows f (rowsAcross columns)) machine := by
      rw [← apply_builtin rule]
    refine ⟨rowsAcross columns, length_rowsAcross some_column,
      fun i row => getElem?_rowsAcross_eq_some_iff some_column, answers_or_failsAt executor _ machine,
      fun answers later answered => ?_, fun before call after error later split fails => ?_,
      fun i entry found => ?_⟩
    · have counted : answers.length = (rowsAcross columns).length := by
        rw [answered.length_eq, List.length_map]
      refine ⟨by rw [traced, answered.map_fst_entries], counted, _,
        toList?_listFrom later.store.nextIdentity answers, ?_⟩
      rw [performed, answered.perform_eq, ← counted]
      rfl
    · rw [traced, performed, split]
      exact ⟨fails.map_fst_entries after, fails.perform_eq split⟩
    · rw [traced] at found
      exact (getElem?_entries found).2
  · obtain ⟨applied, traced⟩ := Refuses.apply_eq checks (.procedure other) machine
    exact ⟨traced, applied⟩
  · obtain ⟨columns, proper⟩ | ⟨before, list, after, split, proper, first⟩ := proper_or_improper lists
    · obtain ⟨list, member, first⟩ := improper
      exact absurd first (toList?_ne_none_of_proper proper list member)
    · obtain ⟨applied, traced⟩ := Refuses.apply_eq checks (.list callable split proper first) machine
      exact ⟨before, list, after, split, proper, first, traced, applied⟩

/-- Three rows across two lists, for a procedure that logs its arguments and refuses the second row:
the third one is not taken. -/
theorem apply_map_partway :
    let f : Value := .lambda 0 ⟨[.ofParts 0 1 2, .ofParts 0 1 3], none, .null, 0, none⟩
    let lists : List Value :=
      [listFrom 1 [.integer 1, .boolean false, .integer 3] .null,
        listFrom 4 [.integer 5, .integer 6, .integer 7, .integer 8] .null]
    let executor : Executor (List (List Value)) :=
      { table := 0
        callLambda := fun _ args machine =>
          let later := ⟨machine.store, machine.state ++ [args]⟩
          if (args.headD .null).isTrue then (.ok .null, later) else (.error .requiresEvaluator, later)
        callHost := fun _ _ => return .null }
    let outcome := executor.apply mapProcedure (f :: lists) ⟨{}, []⟩
    lists ≠ [] ∧ outcome.1 = .error .requiresEvaluator ∧
      outcome.2.state = [[.integer 1, .integer 5], [.boolean false, .integer 6]] := by
  intro f lists executor outcome
  have given : lists ≠ [] := List.cons_ne_nil _ _
  have logs (args : List Value) (machine : Machine (List (List Value))) (two : args.length = 2) :
      executor.make (f, args) machine = executor.callLambda
        ⟨[.ofParts 0 1 2, .ofParts 0 1 3], none, .null, 0, none⟩ args machine := by
    rw [make, apply, two]
    rfl
  obtain ⟨rows, counted, places, _, _, failing, _⟩ :=
    (executor.apply_map f lists given ⟨{}, []⟩).1 rfl
      [[.integer 1, .boolean false, .integer 3],
        [.integer 5, .integer 6, .integer 7, .integer 8]] rfl
  obtain ⟨first, second, third, rfl⟩ := List.length_eq_three.mp (Option.some.inj counted).symm
  cases (places 0 [.integer 1, .integer 5]).mpr rfl
  cases (places 1 [.boolean false, .integer 6]).mpr rfl
  have answered : Answers executor [(f, [.integer 1, .integer 5])] ⟨{}, []⟩ [.null]
      ⟨{}, [[.integer 1, .integer 5]]⟩ := .cons (logs _ _ rfl) (.nil _)
  have fails : FailsAt executor [(f, [.integer 1, .integer 5])] (f, [.boolean false, .integer 6])
      ⟨{}, []⟩ .requiresEvaluator
      ⟨{}, [[.integer 1, .integer 5], [.boolean false, .integer 6]]⟩ :=
    ⟨_, _, answered, logs _ _ rfl⟩
  have run := (failing _ _ _ _ _ rfl fails).2
  exact ⟨given, congrArg Prod.fst run, congrArg (fun run => run.2.state) run⟩

/-- The two primitives make the same calls on the same machines. -/
theorem trace_forEach (executor : Executor σ) (f : Value) (given : lists ≠ []) (machine : Machine σ) :
    executor.trace ((forEachProcedure, f :: lists), machine) =
      executor.trace ((mapProcedure, f :: lists), machine) := by
  have mapChecks := step?_map executor.table f given
  have forEachChecks := step?_forEach executor.table f given
  obtain ⟨refusal, refuses⟩ | ⟨callable, columns, proper⟩ := refuses_or_proper f lists
  · rw [(refuses.apply_eq forEachChecks machine).2, (refuses.apply_eq mapChecks machine).2]
  · rw [trace_of_rule (step?_of_proper forEachChecks callable proper),
      trace_of_rule (step?_of_proper mapChecks callable proper)]
    rfl

/-- The two primitives both refuse their arguments, both fail with the same call, or both succeed. -/
theorem apply_rowwise_cases (executor : Executor σ) (f : Value) (given : lists ≠ [])
    (machine : Machine σ) :
    let mapped := executor.apply mapProcedure (f :: lists) machine
    let visited := executor.apply forEachProcedure (f :: lists) machine
    (∃ refusal, Refuses f lists refusal ∧ mapped = (.error (refusal "map"), machine) ∧
      visited = (.error (refusal "for-each"), machine)) ∨
    (∃ error later, mapped = (.error error, later) ∧ visited = (.error error, later)) ∨
    ∃ list answers later, list.toList? = some answers ∧ visited = (.ok .unspecified, later) ∧
      mapped = (.ok list, ⟨(Store.allocate answers.length later.store).2, later.state⟩) := by
  intro mapped visited
  have mapChecks := step?_map executor.table f given
  have forEachChecks := step?_forEach executor.table f given
  obtain ⟨refusal, refuses⟩ | ⟨callable, columns, proper⟩ := refuses_or_proper f lists
  · exact .inl ⟨refusal, refuses, (refuses.apply_eq mapChecks machine).1,
      (refuses.apply_eq forEachChecks machine).1⟩
  · right
    have mapRuns : mapped = executor.perform (.mapRows f (rowsAcross columns)) machine := by
      rw [← apply_builtin (step?_of_proper mapChecks callable proper)]
    have forEachRuns : visited = executor.perform (.visitRows f (rowsAcross columns)) machine := by
      rw [← apply_builtin (step?_of_proper forEachChecks callable proper)]
    obtain ⟨answers, later, answered⟩ | ⟨before, call, after, error, later, split, fails⟩ :=
      answers_or_failsAt executor ((rowsAcross columns).map fun row => (f, row)) machine
    · refine .inr ⟨_, answers, later, toList?_listFrom later.store.nextIdentity answers, ?_, ?_⟩
      · rw [forEachRuns, Answers.perform_eq answered]
        rfl
      · rw [mapRuns, Answers.perform_eq answered]
        rfl
    · exact .inl ⟨error, later, mapRuns.trans (fails.perform_eq split),
        forEachRuns.trans (fails.perform_eq split)⟩

/-- From the same machine, mapping a procedure and going through the rows for their effects make the
same calls in the same order. A call that fails makes both fail with its error, and arguments that are
refused are refused by both for the same reason and at the same position, each under its own name. Both
leave the same state, and only the list of the answers is allocated in addition. The one answers a list
just when the other answers that there is nothing to say. -/
theorem apply_forEach (executor : Executor σ) (f : Value) (lists : List Value) (given : lists ≠ [])
    (machine : Machine σ) :
    let mapped := executor.apply mapProcedure (f :: lists) machine
    let visited := executor.apply forEachProcedure (f :: lists) machine
    let made := executor.trace ((mapProcedure, f :: lists), machine)
    executor.trace ((forEachProcedure, f :: lists), machine) = made ∧
    (∀ entry ∈ made, ∀ error later, executor.make entry.1 entry.2 = (.error error, later) →
      mapped = (.error error, later) ∧ visited = (.error error, later)) ∧
    (f.isProcedure = false ∨ (∃ list ∈ lists, list.toList? = none) →
      ∃ refusal, Refuses f lists refusal ∧ made = [] ∧
        mapped = (.error (refusal "map"), machine) ∧
        visited = (.error (refusal "for-each"), machine)) ∧
    (mapped.2.state = visited.2.state ∧
      ∃ count, mapped.2.store = (Store.allocate count visited.2.store).2) ∧
    (visited.1 = .ok .unspecified ↔ ∃ list, mapped.1 = .ok list ∧ list.toList?.isSome) ∧
    (∀ value, visited.1 = .ok value → value = .unspecified) ∧
    ∀ value, mapped.1 = .ok value → value.toList?.isSome := by
  intro mapped visited made
  have sameCalls : executor.trace ((forEachProcedure, f :: lists), machine) = made :=
    executor.trace_forEach f given machine
  refine ⟨sameCalls, fun entry member error later failure => ⟨?_, ?_⟩, fun refused => ?_, ?_⟩
  · exact make_of_failing_entry member failure
  · exact make_of_failing_entry (sameCalls ▸ member) failure
  · obtain ⟨refusal, refuses⟩ | ⟨callable, columns, proper⟩ := refuses_or_proper f lists
    · have mapRun := refuses.apply_eq (step?_map executor.table f given) machine
      have forEachRun := refuses.apply_eq (step?_forEach executor.table f given) machine
      exact ⟨refusal, refuses, mapRun.2, mapRun.1, forEachRun.1⟩
    · rcases refused with other | ⟨list, member, improper⟩
      · rw [other] at callable
        cases callable
      · exact absurd improper (toList?_ne_none_of_proper proper list member)
  · obtain ⟨_, _, mapRun, forEachRun⟩ | ⟨_, _, mapRun, forEachRun⟩ |
      ⟨list, answers, _, proper, forEachRun, mapRun⟩ := executor.apply_rowwise_cases f given machine <;>
      simp only [mapped, visited, mapRun, forEachRun]
    · exact ⟨⟨trivial, 0, rfl⟩, by simp, by simp, by simp⟩
    · exact ⟨⟨trivial, 0, rfl⟩, by simp, by simp, by simp⟩
    · exact ⟨⟨trivial, answers.length, rfl⟩, by simp [proper], by simp, by simp [proper]⟩

/-- Over a list of a character and an integer, the codes of characters fail at the second element, for
both primitives with the error of that call. -/
theorem apply_forEach_partway :
    let code : Value := .primitive (.builtin (.character .toInteger))
    let lists : List Value := [listFrom 0 [.char 'a', .integer 5] .null]
    let executor : Executor Unit := .withoutEvaluator 0 fun _ _ => return .unspecified
    let start : Machine Unit := ⟨{}, ()⟩
    let outcome : Except EvalError Value × Machine Unit :=
      (.error (.typeMismatch "char->integer" 1 .char .integer), start)
    lists ≠ [] ∧ executor.apply mapProcedure (code :: lists) start = outcome ∧
      executor.apply forEachProcedure (code :: lists) start = outcome := by
  intro code lists executor start outcome
  have given : lists ≠ [] := List.cons_ne_nil _ _
  have rule : Builtin.step? 0 (.procedure .map) (code :: lists) =
      some (.mapRows code [[.char 'a'], [.integer 5]]) := rfl
  have first : executor.make (code, [.char 'a']) start = (.ok (.integer 97), start) := by
    have found : Builtin.step? 0 (.character .toInteger) [.char 'a'] =
        some (.answer (.integer 97)) := rfl
    rw [make, apply_builtin found]
    rfl
  have second : executor.make (code, [.integer 5]) start = outcome := by
    have found : Builtin.step? 0 (.character .toInteger) [.integer 5] =
        some (.fail (.typeMismatch "char->integer" 1 .char .integer)) := rfl
    rw [make, apply_builtin found]
    rfl
  have entered : ((code, [.integer 5]), start) ∈
      executor.trace ((mapProcedure, code :: lists), start) :=
    mem_trace_iff.mpr (.rule rule rfl (.cons first (.nil start)))
  exact ⟨given, (executor.apply_forEach code lists given start).2.1 _ entered _ _ second⟩

end Executor

end SchemeBase
