import SchemeBase.Proofs.Apply.Condition
import SchemeBase.Proofs.Value.Printing

/-! # Reports of what is raised

What is raised is reported by a text, and all that the text shows of a value is its written form. So
equal arguments are reported alike, whichever copies they are: as the message of a condition, among its
irritants, and as an object that is raised by itself.
-/

namespace SchemeBase

open Value

variable {σ : Type} {executor : Executor σ} {table : SymbolTable} {a b : Value}
  {irritants others : List Value}

/-! ## Texts of equal values -/

/-- A report puts the written forms of the irritants behind the message. -/
theorem conditionReport_eq (table : SymbolTable) (message : String) (irritants : List Value) :
    conditionReport table message irritants =
      (irritants.map (·.written table)).foldl (fun report text => report ++ " " ++ text) message := by
  rw [conditionReport, List.foldl_map]
  simp only [writeAfter_eq]

theorem map_written_eq (compatible : ∀ a ∈ irritants, ∀ b ∈ others, Compatible a b)
    (same : trees irritants = trees others) :
    irritants.map (·.written table) = others.map (·.written table) := by
  induction irritants generalizing others with
  | nil =>
    cases others with
    | nil => rfl
    | cons => cases same
  | cons a irritants ih =>
    cases others with
    | nil => cases same
    | cons b others =>
      obtain ⟨first, rest⟩ := List.cons.inj same
      have head := compatible a List.mem_cons_self b List.mem_cons_self
      have tail := ih (fun one left other right =>
        compatible one (List.mem_cons_of_mem _ left) other (List.mem_cons_of_mem _ right)) rest
      rw [List.map_cons, List.map_cons, (head.written_eq a b first).1, tail]

theorem conditionMessage_eq_of_tree_eq (compatible : Compatible a b) (same : a.tree = b.tree) :
    conditionMessage table a = conditionMessage table b := by
  have texts : a.asText? = b.asText? := by
    cases a <;> cases b <;> first | rfl | cases same
    rfl
  rw [conditionMessage_eq, conditionMessage_eq, texts, (compatible.written_eq a b same).1]

theorem raiseReport_of_ne_condition (other : a.type ≠ .condition) :
    raiseReport table a = "uncaught raise: " ++ a.written table := by
  cases a with
  | condition => exact absurd rfl other
  | _ => exact writeAfter_eq _ _

/-- Equal objects are reported alike when they are raised. -/
theorem raiseReport_eq_of_tree_eq (compatible : Compatible a b) (same : a.tree = b.tree) :
    raiseReport table a = raiseReport table b := by
  cases a with
  | condition _ message irritants =>
    cases b with
    | condition _ _ others =>
      -- The written form of a condition leaves the irritants out, but its report shows them.
      obtain ⟨rfl, parts⟩ := Tree.condition.inj same
      have texts : irritants.map (·.written table) = others.map (·.written table) :=
        map_written_eq (fun _ left _ right => compatible.field left right) parts
      change conditionReport table message irritants = conditionReport table message others
      rw [conditionReport_eq, conditionReport_eq, texts]
    | _ => cases same
  | _ =>
    have other : b.type ≠ .condition := by
      rw [← type_eq_of_tree_eq same]
      simp [type]
    rw [raiseReport_of_ne_condition (by simp [type]), raiseReport_of_ne_condition other,
      (compatible.written_eq _ b same).1]

/-! ## Reports -/

/-- A procedure fails by raising something, with a text for a report. -/
def Executor.Reports (executor : Executor σ) (procedure : Value) (args : List Value)
    (machine : Machine σ) (text : String) : Prop :=
  ∃ payload later, executor.apply procedure args machine = (.error (.raised text payload), later)

theorem Executor.reports_raise (executor : Executor σ) (object : Value) (machine : Machine σ) :
    executor.Reports raiseProcedure [object] machine
      (raiseReport (machine.store.table executor.table) object) :=
  ⟨_, _, executor.apply_raise object machine⟩

theorem Executor.reports_error (executor : Executor σ) (first : Value) (irritants : List Value)
    (machine : Machine σ) :
    executor.Reports errorProcedure (first :: irritants) machine
      (conditionReport (machine.store.table executor.table)
        (conditionMessage (machine.store.table executor.table) first) irritants) :=
  ⟨_, _, executor.apply_error first irritants machine⟩

/-- Equal values are written alike, whatever they are, and raising them or signaling errors with them is
reported alike where symbols are spelled alike. The written form of a value in which all symbols to be
printed are known to a table stays the same whatever is interned in that table. -/
theorem Store.Made.written_eq_of_equal {values : List Value} {store : Store} (made : Made values store)
    (executor : Executor σ) :
    (∀ a ∈ values, ∀ b ∈ values, a.equal b = true →
      (∀ table, a.written table = b.written table) ∧
      ∀ machine last : Machine σ,
        machine.store.table executor.table = last.store.table executor.table →
        ∃ text, executor.Reports raiseProcedure [a] machine text ∧
          executor.Reports raiseProcedure [b] last text) ∧
    (∀ first irritants other others, (∀ arg ∈ first :: irritants, arg ∈ values) →
      (∀ arg ∈ other :: others, arg ∈ values) →
      equalAll (first :: irritants) (other :: others) = true →
      ∀ machine last : Machine σ,
        machine.store.table executor.table = last.store.table executor.table →
        ∃ text, executor.Reports errorProcedure (first :: irritants) machine text ∧
          executor.Reports errorProcedure (other :: others) last text) ∧
    ∀ (value : Value) (table : SymbolTable), (∀ symbol ∈ value.printed, table.owns symbol = true) →
      ∀ spellings, value.written (table.internAll spellings) = value.written table := by
  have compatible {a b : Value} (left : a ∈ values) (right : b ∈ values) : Compatible a b :=
    made.sharing.compatible left right
  refine ⟨fun a left b right equal => ⟨fun table => ?_, fun machine last spelled => ?_⟩, ?_,
    fun value table owned spellings => written_internAll owned spellings⟩
  · have same := (compatible left right).equal_iff.mp equal
    exact ((compatible left right).written_eq a b same).1
  · have same := (compatible left right).equal_iff.mp equal
    refine ⟨_, executor.reports_raise a machine, ?_⟩
    rw [spelled, raiseReport_eq_of_tree_eq (compatible left right) same]
    exact executor.reports_raise b last
  · intro first irritants other others left right equal machine last spelled
    have all (a : Value) (memberA : a ∈ first :: irritants) (b : Value) (memberB : b ∈ other :: others) :
        Compatible a b := compatible (left a memberA) (right b memberB)
    have same := (equalAll_iff all).mp equal
    obtain ⟨head, tail⟩ := List.cons.inj same
    let table := last.store.table executor.table
    have messages : conditionMessage table first = conditionMessage table other :=
      conditionMessage_eq_of_tree_eq (all first List.mem_cons_self other List.mem_cons_self) head
    have texts : irritants.map (·.written table) = others.map (·.written table) :=
      map_written_eq (fun a memberA b memberB =>
        all a (List.mem_cons_of_mem _ memberA) b (List.mem_cons_of_mem _ memberB)) tail
    refine ⟨_, executor.reports_error first irritants machine, ?_⟩
    rw [spelled, messages, conditionReport_eq, texts, ← conditionReport_eq]
    exact executor.reports_error other others last

/-- Two pairs of a procedure and a string, with different copies of the string. Their only symbol is
the name of the procedure, which keeps its spelling when more is interned. -/
theorem Store.Made.written_eq_of_equal_copied :
    let f : Symbol := .ofParts 3 6 0
    let procedure : Value := .lambda 0 ⟨[], none, .null, 0, some f⟩
    let left : Value := .pair 3 procedure (.string 1 "a")
    let right : Value := .pair 4 procedure (.string 2 "a")
    let table : SymbolTable := (SymbolTable.bare 3).internAll ["f"]
    let executor : Executor Unit := .withoutEvaluator 0 fun _ _ => return .unspecified
    let machine : Machine Unit := ⟨{}, ()⟩
    left.equal right = true ∧ (∀ table, left.written table = right.written table) ∧
      (∃ text, executor.Reports raiseProcedure [left] machine text ∧
        executor.Reports raiseProcedure [right] machine text) ∧
      (∃ text, executor.Reports errorProcedure [left, right] machine text ∧
        executor.Reports errorProcedure [right, right] machine text) ∧
      right.written table = "(#<procedure f> . \"a\")" ∧
      right.written (table.internAll ["g", "f", "h"]) = right.written table := by
  intro f procedure left right table executor machine
  have body : Made [.null] { nextIdentity := 0 } := .plain (.start _) rfl
  have named : Made [procedure, .null] { nextIdentity := 1 } := .call body (.lambda (by simp))
  have texts : Made [.string 2 "a", .string 1 "a", procedure, .null] { nextIdentity := 3 } :=
    .call (.call named (.string "a")) (.string "a")
  have first : Made [left, .string 2 "a", .string 1 "a", procedure, .null] { nextIdentity := 4 } :=
    .call texts (.pair (by simp) (by simp))
  have made : Made [right, left, .string 2 "a", .string 1 "a", procedure, .null] { nextIdentity := 5 } :=
    .call first (.pair (by simp) (by simp))
  have same : left.equal right = true := by decide +kernel
  have owned : ∀ symbol ∈ right.printed, table.owns symbol = true := by decide +kernel
  have alike : equalAll [left, right] [right, right] = true := by
    rw [equalAll, same, equalAll_refl, Bool.and_self]
  obtain ⟨each, together, lasting⟩ := made.written_eq_of_equal executor
  obtain ⟨written, reported⟩ := each left (by simp) right (by simp) same
  exact ⟨same, written, reported machine machine rfl,
    together left [right] right [right] (by simp) (by simp) alike machine machine rfl,
    by decide +kernel, lasting right table owned ["g", "f", "h"]⟩

end SchemeBase
