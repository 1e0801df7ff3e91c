import SchemeBase.Rules.Builtin

/-! # Requests of primitives are smaller than their arguments

Every application that a rule asks for has arguments of smaller total size than the arguments of
the rule. This is what ends the recursion of primitives that apply primitives.
-/

namespace SchemeBase

namespace Value

theorem size_pos (value : Value) : 0 < value.size := by
  cases value <;> simp [size]

@[simp] theorem totalSize_nil : totalSize [] = 0 := rfl

@[simp] theorem totalSize_cons (value : Value) (values : List Value) :
    totalSize (value :: values) = value.size + totalSize values := rfl

@[simp] theorem totalSize_append (xs ys : List Value) :
    totalSize (xs ++ ys) = totalSize xs + totalSize ys := by
  induction xs with
  | nil => simp
  | cons x xs ih => simp [ih, Nat.add_assoc]

@[simp] theorem totalSize_reverse (xs : List Value) : totalSize xs.reverse = totalSize xs := by
  induction xs with
  | nil => rfl
  | cons x xs ih => simp [ih, Nat.add_comm]

theorem totalSize_elementsAfter {found items : List Value} {value : Value}
    (h : elementsAfter found value = some items) :
    totalSize items < totalSize found + value.size := by
  fun_induction elementsAfter found value with
  | case1 found =>
    obtain rfl := Option.some.inj h
    simp [size]
  | case2 found id car cdr ih =>
    have := ih h
    simp [size] at this ⊢
    omega
  | case3 => simp at h

/-- The elements of a list are together smaller than the list. -/
theorem totalSize_toList? {items : List Value} {value : Value} (h : value.toList? = some items) :
    totalSize items < value.size := by
  simpa using totalSize_elementsAfter h

end Value

open Value

/-- A row is at most as large as the lists it is taken from. -/
theorem totalSize_rowsAcross {lists : List (List Value)} {row : List Value}
    (h : row ∈ rowsAcross lists) : totalSize row ≤ totalSize lists.flatten := by
  have le_of_mem {x : Value} {items : List Value} (mem : x ∈ items) : x.size ≤ totalSize items := by
    induction items with
    | nil => simp at mem
    | cons y ys ih =>
      rcases List.mem_cons.1 mem with rfl | mem
      · simp
      · have := ih mem
        simp
        omega
  fun_induction rowsAcross lists generalizing row with
  | case1 => simp at h
  | case2 items =>
    obtain ⟨x, mem, rfl⟩ := List.mem_map.1 h
    simpa using le_of_mem mem
  | case3 items lists _ ih =>
    rw [← List.map_uncurry_zip_eq_zipWith] at h
    obtain ⟨⟨x, rest⟩, mem, rfl⟩ := List.mem_map.1 h
    have := le_of_mem (List.of_mem_zip mem).1
    have := ih (List.of_mem_zip mem).2
    simp
    omega

/-- The elements of several lists are together at most as large as the lists. -/
theorem totalSize_lists {args : List Value} {lists : List (List Value)}
    (proper : args.map toList? = lists.map some) : totalSize lists.flatten ≤ totalSize args := by
  induction args generalizing lists with
  | nil =>
    obtain rfl := List.map_eq_nil_iff.1 proper.symm
    exact Nat.le_refl _
  | cons arg args ih =>
    cases lists with
    | nil => cases proper
    | cons items others =>
      obtain ⟨first, rest⟩ := List.cons.inj proper
      have := totalSize_toList? first
      have := ih rest
      simp
      omega

namespace Step

/-- The argument lists of the applications that a step asks for. -/
def requests : Step → List (List Value)
  | finish _ => []
  | call _ args => [args]
  | mapRows _ rows => rows
  | visitRows _ rows => rows

/-- The applications that a step asks for, each a procedure with its arguments. -/
def calls : Step → List (Value × List Value)
  | finish _ => []
  | call procedure args => [(procedure, args)]
  | mapRows procedure rows => rows.map fun row => (procedure, row)
  | visitRows procedure rows => rows.map fun row => (procedure, row)

theorem map_snd_calls (step : Step) : step.calls.map Prod.snd = step.requests := by
  cases step <;> simp [calls, requests, Function.comp_def]

theorem mem_calls_mapRows (f : Value) {rows : List (List Value)} {row : List Value}
    (member : row ∈ rows) : (f, row) ∈ (mapRows f rows).calls :=
  List.mem_map.mpr ⟨row, member, rfl⟩

theorem mem_calls_visitRows (f : Value) {rows : List (List Value)} {row : List Value}
    (member : row ∈ rows) : (f, row) ∈ (visitRows f rows).calls :=
  List.mem_map.mpr ⟨row, member, rfl⟩

@[simp] theorem calls_finish (action : StoreM EvalError Value) : (finish action).calls = [] := rfl

@[simp] theorem calls_answer (value : Value) : (answer value).calls = [] := rfl

@[simp] theorem calls_ofResult (result : Except EvalError Value) : (ofResult result).calls = [] := by
  cases result <;> rfl

@[simp] theorem calls_ofChecked_finish {α : Type} (checked : Except EvalError α)
    (action : α → StoreM EvalError Value) :
    (ofChecked (checked.map fun contents => finish (action contents))).calls = [] := by
  cases checked <;> rfl

/-- A checked step asks for no more than the step inside. -/
theorem mem_calls_ofChecked {checked : Except EvalError Step} {call : Value × List Value}
    (asked : call ∈ (ofChecked checked).calls) :
    ∃ step, checked = .ok step ∧ call ∈ step.calls := by
  cases checked with
  | ok step => exact ⟨step, rfl, asked⟩
  | error => cases asked

end Step

namespace ProcedurePrimitive

/-- A checked step over rows asks for the rows of its lists, under the procedure it was given. -/
theorem mem_calls_rowsFor {primitive : ProcedurePrimitive} {f procedure : Value}
    {args request : List Value} {step : Value × List (List Value) → Step}
    (rowwise : ∀ f rows, (step (f, rows)).calls = rows.map fun row => (f, row))
    (asked : (procedure, request) ∈ (Step.ofChecked ((rowsFor primitive f args).map step)).calls) :
    procedure = f ∧ f.isProcedure = true ∧
      ∃ lists, args.map toList? = lists.map some ∧ request ∈ rowsAcross lists := by
  obtain ⟨inner, checked, asked⟩ := Step.mem_calls_ofChecked asked
  obtain ⟨⟨g, rows⟩, found, rfl⟩ := map_eq_ok_iff.1 checked
  obtain ⟨⟨callable, rfl⟩, lists, proper, rfl⟩ := rowsFor_eq_ok_iff.1 found
  rw [rowwise] at asked
  obtain ⟨row, member, same⟩ := List.mem_map.1 asked
  cases same
  exact ⟨rfl, callable, lists, proper, member⟩

/-- A primitive that asks for an application is given the procedure as its first argument. Then it
spreads the last of the others, or takes a row across all of them. -/
theorem mem_calls_cases {primitive : ProcedurePrimitive} {args : List Value} {step : Step}
    (rule : primitive.step? args = some step) {procedure : Value} {request : List Value}
    (asked : (procedure, request) ∈ step.calls) :
    ∃ rest, args = procedure :: rest ∧ procedure.isProcedure = true ∧
      ((primitive = apply ∧ ∃ init last items, rest = init ++ [last] ∧
          last.toList? = some items ∧ request = init ++ items) ∨
        ((primitive = map ∨ primitive = forEach) ∧ ∃ lists,
          rest.map toList? = lists.map some ∧ request ∈ rowsAcross lists)) := by
  unfold step? at rule
  split at rule
  · cases rule
    cases asked
  · next f x rest =>
    cases rule
    obtain ⟨step, checked, asked⟩ := Step.mem_calls_ofChecked asked
    obtain ⟨callable, items, proper, rfl⟩ := spread_eq_ok_iff.1 checked
    cases List.mem_singleton.1 asked
    have whole := List.dropLast_concat_getLast (List.cons_ne_nil x rest)
    rw [List.getLast?_eq_some_getLast (List.cons_ne_nil x rest), Option.getD_some] at proper
    exact ⟨x :: rest, rfl, callable, .inl ⟨rfl, _, _, items, whole.symm, proper, rfl⟩⟩
  · next f x rest =>
    cases rule
    obtain ⟨rfl, callable, rows⟩ := mem_calls_rowsFor (fun _ _ => rfl) asked
    exact ⟨x :: rest, rfl, callable, .inr ⟨.inl rfl, rows⟩⟩
  · next f x rest =>
    cases rule
    obtain ⟨rfl, callable, rows⟩ := mem_calls_rowsFor (fun _ _ => rfl) asked
    exact ⟨x :: rest, rfl, callable, .inr ⟨.inr rfl, rows⟩⟩
  · cases rule
    simp at asked
  · cases rule

end ProcedurePrimitive

namespace Builtin

/-- A built-in outside the procedure library applies nothing. -/
theorem calls_eq_nil {table : TableId} {builtin : Builtin} {args : List Value} {step : Step}
    (rule : builtin.step? table args = some step) (other : ∀ p, builtin ≠ .procedure p) :
    step.calls = [] := by
  cases builtin with
  | procedure p => exact absurd rfl (other p)
  | character p =>
    simp only [step?] at rule
    unfold CharacterPrimitive.step? at rule
    split at rule <;> cases rule <;> simp [CharacterPrimitive.onChar]
  | condition p =>
    simp only [step?] at rule
    unfold ConditionPrimitive.step? at rule
    split at rule <;> cases rule <;> simp [ConditionPrimitive.onCondition]
  | symbol p =>
    simp only [step?] at rule
    unfold SymbolPrimitive.step? at rule
    split at rule <;> cases rule <;> simp
  | boolean p =>
    simp only [step?] at rule
    unfold BooleanPrimitive.step? at rule
    split at rule <;> cases rule <;> simp

/-- Only primitives of the procedure library ask for applications. -/
theorem exists_procedure_of_mem_calls {table : TableId} {builtin : Builtin} {args : List Value}
    {step : Step} (rule : builtin.step? table args = some step) {call : Value × List Value}
    (asked : call ∈ step.calls) :
    ∃ primitive : ProcedurePrimitive, builtin = .procedure primitive ∧
      primitive.step? args = some step := by
  by_cases other : ∀ p, builtin ≠ .procedure p
  · rw [calls_eq_nil rule other] at asked
    cases asked
  · obtain ⟨p, rfl⟩ : ∃ p, builtin = .procedure p := by simpa using other
    exact ⟨p, rfl, rule⟩

/-- The requests of a built-in are smaller than its arguments. -/
theorem totalSize_requests {table : TableId} {builtin : Builtin} {args : List Value} {step : Step}
    (h : builtin.step? table args = some step) {request : List Value}
    (mem : request ∈ step.requests) : totalSize request < totalSize args := by
  rw [← Step.map_snd_calls] at mem
  obtain ⟨⟨procedure, _⟩, asked, rfl⟩ := List.mem_map.1 mem
  obtain ⟨p, rfl, rule⟩ := exists_procedure_of_mem_calls h asked
  obtain ⟨rest, rfl, _, ⟨_, init, last, items, rfl, proper, rfl⟩ | ⟨_, lists, proper, row⟩⟩ :=
    ProcedurePrimitive.mem_calls_cases rule asked
  · have := totalSize_toList? proper
    have := procedure.size_pos
    simp
    omega
  · have := totalSize_rowsAcross row
    have := totalSize_lists proper
    have := procedure.size_pos
    simp
    omega

end Builtin

end SchemeBase
