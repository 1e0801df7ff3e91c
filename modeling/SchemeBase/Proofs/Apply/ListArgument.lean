import SchemeBase.Proofs.Apply.Rows
import SchemeBase.Proofs.Apply.Spread
import SchemeBase.Proofs.Value.Spine

/-! # Arguments that are taken for lists

Three primitives take arguments for lists: `apply` the last one, `map` and `for-each` all behind the
procedure. They read an argument by following its cdrs, and they refuse it if it does not end in the empty
list. A list that is built of some elements is read as these. So an argument is refused just when it is
equal to no list that has ever been built, and then nothing is called.
-/

namespace SchemeBase

open Value

namespace Store

variable {values items : List Value} {store : Store} {value tail : Value}

/-! ## Building and reading -/

/-- Builds a list from its end, one pair for each element. -/
def consAll (items : List Value) : StateM Store Value :=
  items.reverse.foldlM (fun tail item => newPair item tail) .null

theorem consAll_cons (item : Value) (items : List Value) :
    consAll (item :: items) = consAll items >>= newPair item := by
  rw [consAll, List.reverse_cons, List.foldlM_append, consAll]
  refine bind_congr fun rest => ?_
  simp only [List.foldlM_cons, List.foldlM_nil, bind_pure]

/-- The pairs are numbered from the end, and are as many as those of a list that is built at once. -/
theorem spine_consAll (items : List Value) (store : Store) :
    Spine .null items (consAll items store).1 ∧
      (consAll items store).2 = (newList items store).2 := by
  induction items with
  | nil => exact ⟨.ends, rfl⟩
  | cons item items ih =>
    obtain ⟨rest, allocated⟩ := ih
    rw [consAll_cons]
    refine ⟨.pair _ item rest, ?_⟩
    change (allocate 1 (consAll items store).2).2 = _
    rw [allocated]
    rfl

/-- The elements of a value that was made can be taken out of it. -/
theorem Made.exists_items (made : Made values store) (member : value ∈ values)
    (spine : Spine tail items value) :
    ∃ more, Made more store ∧ (∀ other ∈ values, other ∈ more) ∧ ∀ item ∈ items, item ∈ more := by
  induction spine generalizing values with
  | ends => exact ⟨values, made, fun _ => id, List.forall_mem_nil _⟩
  | @pair id car items cdr rest ih =>
    have taken : Made (cdr :: car :: values) store :=
      (made.field member (by simp [fields])).field (List.mem_cons_of_mem _ member) (by simp [fields])
    obtain ⟨more, madeMore, kept, all⟩ := ih taken List.mem_cons_self
    obtain ⟨_, carKept, rest⟩ := by simpa only [List.forall_mem_cons] using kept
    exact ⟨more, madeMore, rest, List.forall_mem_cons.mpr ⟨carKept, all⟩⟩

/-- A value is equal to what a factory has built for a list of some elements. -/
def EqualsList (value : Value) : Prop :=
  ∃ items start values store, Made values store ∧ value ∈ values ∧ (newList items start).1 ∈ values ∧
    value.equal (newList items start).1 = true

theorem EqualsList.isSome_toList? (equals : EqualsList value) : value.toList?.isSome := by
  obtain ⟨items, start, values, store, made, member, listMember, same⟩ := equals
  have trees := ((made.sharing.compatible member listMember).equal_iff).mp same
  obtain ⟨others, spine⟩ := (spine_listFrom start.nextIdentity items .null).of_tree_eq trees
  rw [spine.toList?_eq_some]
  rfl

theorem Made.isSome_toList?_iff (made : Made values store) (member : value ∈ values) :
    value.toList?.isSome ↔ EqualsList value := by
  refine ⟨fun proper => ?_, EqualsList.isSome_toList?⟩
  obtain ⟨items, read⟩ := Option.isSome_iff_exists.mp proper
  have spine := toList?_eq_some_iff.mp read
  obtain ⟨more, madeMore, kept, all⟩ := made.exists_items member spine
  have built : Made ((newList items store).1 :: more) (newList items store).2 := madeMore.call (.list all)
  exact ⟨items, store, _, _, built, List.mem_cons_of_mem _ (kept _ member), List.mem_cons_self,
    spine.equal (spine_listFrom store.nextIdentity items .null)⟩

end Store

open Store

variable {σ : Type} {executor : Executor σ} {machine : Machine σ} {f arg : Value}
  {before after lists : List Value} {primitive : ProcedurePrimitive}

/-! ## Refusals -/

/-- Which primitives take an argument for a list, by what stands behind it. -/
inductive TakesList : ProcedurePrimitive → List Value → Prop
  | apply : TakesList .apply []
  | map (after : List Value) : TakesList .map after
  | forEach (after : List Value) : TakesList .forEach after

namespace Executor

/-- A primitive applied to a procedure and more arguments fails over one of them, the one behind `before`,
as it is no proper list. Nothing is called and nothing has changed. -/
def RefusesList (executor : Executor σ) (primitive : ProcedurePrimitive) (f : Value) (before : List Value)
    (arg : Value) (after : List Value) (machine : Machine σ) : Prop :=
  let call : Call := (.primitive (.builtin (.procedure primitive)), f :: (before ++ arg :: after))
  executor.make call machine = (.error (.improperList primitive.name (before.length + 2)), machine) ∧
    executor.trace (call, machine) = []

theorem step?_apply_of_improper (table : TableId) (callable : f.isProcedure = true)
    (improper : arg.toList? = none) :
    Builtin.step? table (.procedure .apply) (f :: (before ++ [arg])) =
      some (.fail (.improperList "apply" (before.length + 2))) := by
  have checked : requireProcedure ProcedurePrimitive.apply.name 1 f = .ok f :=
    requireProcedure_eq_ok_iff.mpr ⟨callable, rfl⟩
  have spread : ProcedurePrimitive.spread f (before ++ [arg]) =
      .error (.improperList "apply" (before.length + 2)) := by
    rw [ProcedurePrimitive.spread, checked]
    change (requireList _ _ _ >>= _) = _
    rw [requireList, List.getLast?_concat, Option.getD_some, improper, List.length_append]
    rfl
  obtain ⟨x, rest, same⟩ := List.exists_cons_of_ne_nil (List.concat_ne_nil arg before)
  rw [same] at spread ⊢
  change some (Step.ofChecked (ProcedurePrimitive.spread f (x :: rest))) = _
  rw [spread]
  rfl

theorem refusesList_apply_iff (callable : f.isProcedure = true) :
    executor.RefusesList .apply f before arg [] machine ↔ arg.toList? = none := by
  cases read : arg.toList? with
  | none =>
    have rule := @step?_apply_of_improper f arg before executor.table callable read
    refine iff_of_true ⟨?_, ?_⟩ rfl
    · rw [make, apply_builtin rule]
      rfl
    · rw [trace_of_rule rule]
      rfl
  | some items =>
    refine iff_of_false ?_ (Option.some_ne_none items)
    rintro ⟨_, quiet⟩
    rw [trace_of_rule (step?_apply executor.table callable read)] at quiet
    cases quiet

/-- Where each row is a call and all arguments are lists, there is an answer if no call is made: there are
no rows then. -/
theorem exists_answer_of_no_calls {rowwise : Value × List (List Value) → Step} {columns : List (List Value)}
    (rule : Builtin.step? executor.table (.procedure primitive) (f :: lists) =
      some (.ofChecked ((primitive.rowsFor f lists).map rowwise)))
    (calls : ∀ rows, (rowwise (f, rows)).calls = rows.map fun row => (f, row))
    (ends : ∃ answer later, (rowwise (f, [])).conclude [] machine = (.ok answer, later))
    (callable : f.isProcedure = true) (proper : lists.map toList? = columns.map some)
    (quiet : executor.trace ((.primitive (.builtin (.procedure primitive)), f :: lists), machine) = []) :
    ∃ answer later, executor.make (.primitive (.builtin (.procedure primitive)), f :: lists) machine =
      (.ok answer, later) := by
  have found := step?_of_proper rule callable proper
  rw [trace_of_rule found, calls] at quiet
  rw [make, apply_builtin found]
  cases rows : rowsAcross columns with
  | nil =>
    have answered : Answers executor (rowwise (f, [])).calls machine [] machine := by
      rw [calls]
      exact .nil machine
    rw [answered.perform_eq]
    exact ends
  | cons row rest =>
    rw [rows] at quiet
    cases quiet

/-- Where each row is a call, an argument is refused just when it is no list, as long as those in front of
it are lists. Those behind it are not looked at before. -/
theorem refusesList_rowwise_iff {rowwise : Value × List (List Value) → Step}
    (rule : ∀ lists, lists ≠ [] → Builtin.step? executor.table (.procedure primitive) (f :: lists) =
      some (.ofChecked ((primitive.rowsFor f lists).map rowwise)))
    (calls : ∀ rows, (rowwise (f, rows)).calls = rows.map fun row => (f, row))
    (ends : ∃ answer later, (rowwise (f, [])).conclude [] machine = (.ok answer, later))
    (callable : f.isProcedure = true) (earlier : ∀ list ∈ before, list.toList?.isSome) :
    executor.RefusesList primitive f before arg after machine ↔ arg.toList? = none := by
  have given : before ++ arg :: after ≠ [] := List.append_ne_nil_of_right_ne_nil _ (List.cons_ne_nil _ _)
  constructor
  · rintro ⟨failed, quiet⟩
    obtain ⟨columns, proper⟩ | ⟨first, list, rest, split, proper, improper⟩ :=
      proper_or_improper (before ++ arg :: after)
    · obtain ⟨answer, later, answered⟩ :=
        exists_answer_of_no_calls (rule _ given) calls ends callable proper quiet
      cases failed.symm.trans answered
    · -- The first argument that is no list has the position of this one.
      have refused := (Refuses.apply_eq (rule _ given) (.list callable split proper improper) machine).1
      have same := Except.error.inj (congrArg Prod.fst (failed.symm.trans refused))
      have place := Nat.add_right_cancel (EvalError.improperList.inj same).2
      cases (List.append_inj split place).2
      exact improper
  · intro improper
    exact Refuses.apply_eq (rule _ given) (.list callable rfl earlier improper) machine

/-- An argument that is taken for a list is refused just when it is none. -/
theorem refusesList_iff (takes : TakesList primitive after) (callable : f.isProcedure = true)
    (earlier : primitive ≠ .apply → ∀ list ∈ before, list.toList?.isSome) :
    executor.RefusesList primitive f before arg after machine ↔ arg.toList? = none := by
  cases takes with
  | apply => exact refusesList_apply_iff callable
  | map =>
    exact refusesList_rowwise_iff (fun _ given => step?_map executor.table f given) (fun _ => rfl)
      ⟨_, _, rfl⟩ callable (earlier nofun)
  | forEach =>
    exact refusesList_rowwise_iff (fun _ given => step?_forEach executor.table f given) (fun _ => rfl)
      ⟨_, _, rfl⟩ callable (earlier nofun)

/-- Building a list of elements and reading it gives the elements back, in whatever order its pairs are
made. Reading gives elements just when the spine of the value has them and ends in the empty list, and
every list of them is equal to the value. So `apply`, `map` and `for-each` refuse an argument that they
take for a list just when it is equal to no list, as long as the procedure is one and the lists in front of
it are lists. -/
theorem reads_lists (executor : Executor σ) (machine : Machine σ) :
    (∀ (items : List Value) (store : Store),
      (newList items store).1.toList? = some items ∧ (∀ item ∈ items, item.eqv item = true) ∧
        (consAll items store).1.toList? = some items ∧
        (consAll items store).2 = (newList items store).2) ∧
    (∀ value items, value.toList? = some items ↔ Spine .null items value) ∧
    (∀ value items, value.toList? = some items → ∀ store, (newList items store).1.equal value = true) ∧
    (∀ value items tail, Spine tail items value → tail.type ≠ .pair → tail.type ≠ .null →
      value.toList? = none) ∧
    ∀ values store, Made values store → ∀ arg ∈ values,
      (arg.toList?.isSome ↔ EqualsList arg) ∧
      ∀ primitive f before after, f.isProcedure = true → TakesList primitive after →
        (primitive ≠ .apply → ∀ earlier ∈ before, EqualsList earlier) →
          (executor.RefusesList primitive f before arg after machine ↔ ¬EqualsList arg) := by
  refine ⟨fun items store => ?_, fun value items => toList?_eq_some_iff, fun value items read store => ?_,
    fun value items tail spine => spine.toList?_eq_none, fun values store made arg member => ?_⟩
  · obtain ⟨spine, allocated⟩ := spine_consAll items store
    exact ⟨toList?_listFrom store.nextIdentity items, fun item _ => eqv_refl item, spine.toList?_eq_some,
      allocated⟩
  · exact (spine_listFrom store.nextIdentity items .null).equal (toList?_eq_some_iff.mp read)
  · have proper := made.isSome_toList?_iff member
    refine ⟨proper, fun primitive f before after callable takes earlier => ?_⟩
    rw [← proper, Option.not_isSome_iff_eq_none]
    exact refusesList_iff takes callable fun other list member => (earlier other list member).isSome_toList?

/-- A pair of two integers is refused by `map` behind a list, and `apply` takes it in front of one. -/
theorem reads_lists_dotted :
    let executor : Executor Unit := .withoutEvaluator 0 fun _ _ => return .unspecified
    let machine : Machine Unit := ⟨{}, ()⟩
    let f : Value := .primitive (.builtin (.procedure .isProcedure))
    let dotted : Value := .pair 0 (.integer 1) (.integer 2)
    let list : Value := .pair 1 (.integer 1) .null
    Made [list, dotted, .null, .integer 2, .integer 1] { nextIdentity := 2 } ∧
      EqualsList list ∧ ¬EqualsList dotted ∧
      executor.RefusesList .map f [list] dotted [] machine ∧
      ¬executor.RefusesList .apply f [dotted] list [] machine := by
  intro executor machine f dotted list
  have plain : Made [.null, .integer 2, .integer 1] {} := .plain (.plain (.plain (.start {}) rfl) rfl) rfl
  have one : Made [dotted, .null, .integer 2, .integer 1] { nextIdentity := 1 } :=
    .call plain (.pair (by simp) (by simp))
  have made : Made [list, dotted, .null, .integer 2, .integer 1] { nextIdentity := 2 } :=
    .call one (.pair (by simp) (by simp))
  obtain ⟨_, _, _, _, accepts⟩ := executor.reads_lists machine
  obtain ⟨listIff, listRefused⟩ := accepts _ _ made list (by simp)
  obtain ⟨dottedIff, dottedRefused⟩ := accepts _ _ made dotted (by simp)
  have proper : EqualsList list := listIff.mp rfl
  have improper : ¬EqualsList dotted := fun equals => Bool.false_ne_true (dottedIff.mpr equals)
  refine ⟨made, proper, improper, ?_, ?_⟩
  · exact (dottedRefused .map f [list] [] rfl (.map []) fun _ _ member =>
      List.mem_singleton.mp member ▸ proper).mpr improper
  · have accepted := listRefused .apply f [dotted] [] rfl .apply fun other => absurd rfl other
    exact fun refused => accepted.mp refused proper

end Executor

end SchemeBase
