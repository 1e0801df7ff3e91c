import Mathlib.Data.List.Chain
import Mathlib.Logic.Relation
import SchemeBase.Apply

/-! # Nested applications

Three built-ins ask for applications of their own. What they ask for is made of parts of their
arguments, found through pairs, and is smaller than these. So a property that pairs hand on to their
fields is kept by nested applications, chains of nested applications are short, and a fact about
applications may be proved by assuming it of those that an application asks for.
-/

namespace SchemeBase

open Value

/-- A procedure and the arguments that it is applied to. -/
abbrev Call := Value × List Value

/-- The application of a built-in asks for another application. -/
inductive Issues (table : TableId) : Call → Call → Prop
  | rule {builtin : Builtin} {args : List Value} {step : Step} {inner : Call} :
      builtin.step? table args = some step → inner ∈ step.calls →
      Issues table (.primitive (.builtin builtin), args) inner

/-- One application leads to another through built-ins that ask for applications. -/
abbrev Nested (table : TableId) : Call → Call → Prop := Relation.ReflTransGen (Issues table)

variable {table : TableId} {outer inner : Call}

theorem Issues.totalSize_lt (issued : Issues table outer inner) :
    totalSize inner.2 < totalSize outer.2 := by
  cases issued with
  | rule rule asked =>
    refine Builtin.totalSize_requests rule ?_
    rw [← Step.map_snd_calls]
    exact List.mem_map_of_mem asked

/-- A chain of nested applications is at most as long as the first arguments are large. -/
theorem length_le_totalSize {calls : List Call}
    (chain : List.IsChain (Issues table) (outer :: calls)) : calls.length ≤ totalSize outer.2 := by
  induction calls generalizing outer with
  | nil => exact Nat.zero_le _
  | cons inner calls ih =>
    obtain ⟨issued, rest⟩ := List.isChain_cons_cons.mp chain
    have shorter := ih rest
    have smaller := issued.totalSize_lt
    rw [List.length_cons]
    omega

/-- A fact holds of every application if it holds of one as soon as it holds of those that it asks
for. -/
theorem call_induction (table : TableId) {motive : Value → List Value → Prop}
    (step : ∀ f args, (∀ g request, Issues table (f, args) (g, request) → motive g request) →
      motive f args) (f : Value) (args : List Value) : motive f args := by
  induction size : totalSize args using Nat.strongRecOn generalizing f args with
  | ind _ ih =>
    refine step f args fun g request issued => ih _ ?_ g request rfl
    exact size ▸ issued.totalSize_lt

/-! ## Parts of arguments -/

/-- Whether a primitive belongs to the built-in libraries. -/
def Primitive.isBuiltin : Primitive → Bool
  | builtin _ => true
  | host _ => false

/-- Whether all primitives that pairs lead to satisfy a test. -/
def Value.primitivesAll (test : Primitive → Bool) : Value → Bool
  | primitive p => test p
  | pair _ car cdr => car.primitivesAll test && cdr.primitivesAll test
  | _ => true

theorem Value.primitivesAll_pair {test : Primitive → Bool} (id : Identity) (car cdr : Value)
    (all : (pair id car cdr).primitivesAll test = true) :
    car.primitivesAll test = true ∧ cdr.primitivesAll test = true :=
  Bool.and_eq_true_iff.mp all

variable {P : Value → Prop} (parts : ∀ id car cdr, P (.pair id car cdr) → P car ∧ P cdr)

include parts

theorem forall_elementsAfter {found items : List Value} {value : Value} (whole : P value)
    (before : ∀ item ∈ found, P item) (list : elementsAfter found value = some items) :
    ∀ item ∈ items, P item := by
  fun_induction elementsAfter found value with
  | case1 found =>
    obtain rfl := Option.some.inj list
    intro item member
    exact before item (List.mem_reverse.mp member)
  | case2 found id car cdr ih =>
    obtain ⟨first, rest⟩ := parts id car cdr whole
    exact ih rest (List.forall_mem_cons.mpr ⟨first, before⟩) list
  | case3 => cases list

theorem forall_toList? {items : List Value} {value : Value} (whole : P value)
    (list : value.toList? = some items) : ∀ item ∈ items, P item :=
  forall_elementsAfter parts whole (List.forall_mem_nil _) list

omit parts in
/-- A row across lists takes its elements from them. -/
theorem forall_rowsAcross {lists : List (List Value)} (all : ∀ items ∈ lists, ∀ item ∈ items, P item)
    {row : List Value} (member : row ∈ rowsAcross lists) : ∀ item ∈ row, P item := by
  fun_induction rowsAcross lists generalizing row with
  | case1 => cases member
  | case2 items =>
    obtain ⟨item, inside, rfl⟩ := List.mem_map.mp member
    exact List.forall_mem_singleton.mpr (all items List.mem_cons_self item inside)
  | case3 items lists _ ih =>
    obtain ⟨first, rest⟩ := List.forall_mem_cons.mp all
    rw [← List.map_uncurry_zip_eq_zipWith] at member
    obtain ⟨⟨item, tail⟩, inside, rfl⟩ := List.mem_map.mp member
    obtain ⟨here, there⟩ := List.of_mem_zip inside
    exact List.forall_mem_cons.mpr ⟨first item here, ih rest there⟩

/-- What pairs hand on to their fields is handed on to nested applications. -/
theorem Issues.forall_parts {f g : Value} {args request : List Value}
    (issued : Issues table (f, args) (g, request)) (all : ∀ arg ∈ args, P arg) :
    P g ∧ ∀ arg ∈ request, P arg := by
  cases issued with
  | rule rule asked =>
    obtain ⟨primitive, _, rule⟩ := Builtin.exists_procedure_of_mem_calls rule asked
    obtain ⟨rest, rfl, _, ⟨_, init, last, items, rfl, proper, rfl⟩ | ⟨_, lists, proper, row⟩⟩ :=
      ProcedurePrimitive.mem_calls_cases rule asked <;>
      obtain ⟨first, others⟩ := List.forall_mem_cons.mp all
    · obtain ⟨leading, final⟩ := List.forall_mem_append.mp others
      exact ⟨first, List.forall_mem_append.mpr ⟨leading,
        forall_toList? parts (List.forall_mem_singleton.mp final) proper⟩⟩
    · refine ⟨first, forall_rowsAcross (fun items member => ?_) row⟩
      have found : some items ∈ rest.map toList? := proper ▸ List.mem_map_of_mem member
      obtain ⟨arg, given, list⟩ := List.mem_map.mp found
      exact forall_toList? parts (others arg given) list

omit parts in
/-- A test that all primitives of a call satisfy is satisfied by those of nested calls. -/
theorem Issues.forall_primitives {test : Primitive → Bool} (issued : Issues table outer inner)
    (all : ∀ value ∈ outer.1 :: outer.2, value.primitivesAll test = true) :
    ∀ value ∈ inner.1 :: inner.2, value.primitivesAll test = true :=
  List.forall_mem_cons.mpr
    (issued.forall_parts Value.primitivesAll_pair (List.forall_mem_cons.mp all).2)

end SchemeBase
