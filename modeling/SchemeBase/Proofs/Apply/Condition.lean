import SchemeBase.Proofs.Apply.Spread
import SchemeBase.Proofs.Value.Equal

/-! # Conditions, made and raised

Three primitives deal in conditions that are made of the same arguments. One makes the condition, one
makes and raises it, and one raises whatever it is given. What is raised is the object itself, so it can
be raised again and stays what it is, and it is reported alike as long as symbols are spelled alike. A
condition can be taken apart into its message and its irritants, and what is made of these two is equal
to it.
-/

namespace SchemeBase

open Value

/-- The primitive that makes a condition and raises it. -/
abbrev errorProcedure : Value := .primitive (.builtin (.condition .error))

/-- The primitive that raises an object. -/
abbrev raiseProcedure : Value := .primitive (.builtin (.condition .raise))

/-- The primitive that makes a condition. -/
abbrev makeCondition : Value := .primitive (.builtin (.condition .make))

/-- The primitive that answers the message of a condition. -/
abbrev conditionMessageOf : Value := .primitive (.builtin (.condition .messageOf))

/-- The primitive that lists the irritants of a condition. -/
abbrev conditionIrritantsOf : Value := .primitive (.builtin (.condition .irritantsOf))

/-! ## Conditions as values -/

theorem conditionMessage_eq (table : SymbolTable) (first : Value) :
    conditionMessage table first = first.asText?.getD (first.written table) := by
  unfold conditionMessage
  cases first.asText? <;> rfl

/-- A value is a condition with a message, and with irritants equivalent to others. -/
def IsCondition (message : String) (irritants : List Value) (value : Value) : Prop :=
  ∃ kept, value.asCondition? = some (message, kept) ∧
    List.Forall₂ (fun a b => a.eqv b = true) kept irritants

theorem isCondition (id : Identity) (message : String) (irritants : List Value) :
    IsCondition message irritants (.condition id message irritants) :=
  ⟨irritants, rfl, List.forall₂_same.mpr fun irritant _ => eqv_refl irritant⟩

theorem equal_condition (id other : Identity) (message : String) (irritants : List Value) :
    (Value.condition id message irritants).equal (.condition other message irritants) = true := by
  rw [equal, beq_self_eq_true, equalAll_refl, Bool.and_self]

namespace Executor

variable {σ : Type} {executor : Executor σ} {table : SymbolTable} {object payload : Value}

/-! ## What the primitives do -/

theorem apply_error (executor : Executor σ) (first : Value) (irritants : List Value)
    (machine : Machine σ) :
    let table := machine.store.table executor.table
    let message := conditionMessage table first
    executor.apply errorProcedure (first :: irritants) machine =
      (.error (.raised (conditionReport table message irritants)
        (.condition machine.store.nextIdentity message irritants)),
        ⟨(Store.allocate 1 machine.store).2, machine.state⟩) :=
  (apply_of_finish rfl machine).trans rfl

theorem apply_makeCondition (executor : Executor σ) (first : Value) (irritants : List Value)
    (machine : Machine σ) :
    executor.apply makeCondition (first :: irritants) machine =
      (.ok (.condition machine.store.nextIdentity
        (conditionMessage (machine.store.table executor.table) first) irritants),
        ⟨(Store.allocate 1 machine.store).2, machine.state⟩) :=
  (apply_of_finish rfl machine).trans rfl

theorem apply_raise (executor : Executor σ) (object : Value) (machine : Machine σ) :
    executor.apply raiseProcedure [object] machine =
      (.error (.raised (raiseReport (machine.store.table executor.table) object) object), machine) :=
  (apply_of_finish rfl machine).trans rfl

theorem apply_conditionMessageOf (executor : Executor σ) (id : Identity) (message : String)
    (irritants : List Value) (machine : Machine σ) :
    executor.apply conditionMessageOf [.condition id message irritants] machine =
      (.ok (.string machine.store.nextIdentity message),
        ⟨(Store.allocate 1 machine.store).2, machine.state⟩) :=
  (apply_of_finish rfl machine).trans rfl

theorem apply_conditionIrritantsOf (executor : Executor σ) (id : Identity) (message : String)
    (irritants : List Value) (machine : Machine σ) :
    executor.apply conditionIrritantsOf [.condition id message irritants] machine =
      (.ok (listFrom machine.store.nextIdentity irritants .null),
        ⟨(Store.allocate irritants.length machine.store).2, machine.state⟩) :=
  (apply_of_finish rfl machine).trans rfl

/-! ## Raised again -/

/-- An object is raised where symbols are spelled by a table, and the failure carries a payload. -/
def Raises (executor : Executor σ) (table : SymbolTable) (object payload : Value) : Prop :=
  ∃ (machine later : Machine σ) (text : String), machine.store.table executor.table = table ∧
    executor.apply raiseProcedure [object] machine = (.error (.raised text payload), later)

/-- However often an object has been raised again, raising what was caught last fails with one text, and
with an object equivalent to the first. -/
def KeepsRaising (executor : Executor σ) (table : SymbolTable) (text : String) (object : Value) : Prop :=
  ∀ again, Relation.ReflTransGen (executor.Raises table) object again →
    ∀ machine : Machine σ, machine.store.table executor.table = table →
      ∃ payload, executor.apply raiseProcedure [again] machine = (.error (.raised text payload), machine) ∧
        payload.eqv object = true

theorem Raises.eq (raises : executor.Raises table object payload) : payload = object := by
  obtain ⟨machine, later, text, _, raised⟩ := raises
  rw [apply_raise] at raised
  cases raised
  rfl

theorem keepsRaising (executor : Executor σ) (table : SymbolTable) (object : Value) :
    executor.KeepsRaising table (raiseReport table object) object := by
  intro again caught machine spelled
  have same : again = object := by
    induction caught with
    | refl => rfl
    | tail _ raises ih => exact raises.eq.trans ih
  subst same spelled
  exact ⟨again, apply_raise executor again machine, eqv_refl again⟩

/-! ## One condition in three ways -/

/-- Spreading a message and irritants makes the condition of both. -/
theorem apply_makeCondition_of_parts (executor : Executor σ) (id start : Identity) (message : String)
    (irritants : List Value) (machine : Machine σ) :
    executor.apply applyProcedure
        [makeCondition, .string id message, listFrom start irritants .null] machine =
      (.ok (.condition machine.store.nextIdentity message irritants),
        ⟨(Store.allocate 1 machine.store).2, machine.state⟩) := by
  have spread := @apply_applyProcedure σ executor makeCondition (listFrom start irritants .null)
    [.string id message] irritants rfl (toList?_listFrom start irritants)
  exact (congrFun spread machine).trans (executor.apply_makeCondition (.string id message) irritants machine)

/-- While the symbols are spelled alike, signaling an error fails as raising the condition does that is
made of the same arguments: the texts are the same, and what is raised are equal conditions, each with
the text or the written form of the first argument as its message and with the other arguments as its
irritants. What is raised may be caught and raised again any number of times. And of the message and the
irritants of any condition, spread as arguments, an equal condition is made. -/
theorem apply_signals (executor : Executor σ) (table : SymbolTable) :
    (∀ (first : Value) (irritants : List Value), ∃ text, ∀ machine other : Machine σ,
      machine.store.table executor.table = table → other.store.table executor.table = table →
      ∃ payload later condition made,
        executor.apply errorProcedure (first :: irritants) machine =
          (.error (.raised text payload), later) ∧
        executor.apply makeCondition (first :: irritants) other = (.ok condition, made) ∧
        payload.equal condition = true ∧
        ∀ object ∈ [payload, condition],
          IsCondition (first.asText?.getD (first.written table)) irritants object ∧
            executor.KeepsRaising table text object) ∧
    ∀ (id : Identity) (message : String) (irritants : List Value) (first second third : Machine σ),
      ∃ text later list last made final,
        executor.apply conditionMessageOf [.condition id message irritants] first = (.ok text, later) ∧
        executor.apply conditionIrritantsOf [.condition id message irritants] second = (.ok list, last) ∧
        executor.apply applyProcedure [makeCondition, text, list] third = (.ok made, final) ∧
        made.equal (.condition id message irritants) = true := by
  constructor
  · intro first irritants
    refine ⟨conditionReport table (conditionMessage table first) irritants, ?_⟩
    rintro machine other rfl spelled
    have fails := executor.apply_error first irritants machine
    have makes := executor.apply_makeCondition first irritants other
    rw [spelled] at makes
    refine ⟨_, _, _, _, fails, makes, equal_condition _ _ _ _, fun object member => ?_⟩
    rw [← conditionMessage_eq]
    rcases List.mem_pair.mp member with rfl | rfl
    · exact ⟨isCondition _ _ _, executor.keepsRaising _ _⟩
    · exact ⟨isCondition _ _ _, executor.keepsRaising _ _⟩
  · intro id message irritants first second third
    exact ⟨_, _, _, _, _, _, executor.apply_conditionMessageOf id message irritants first,
      executor.apply_conditionIrritantsOf id message irritants second,
      executor.apply_makeCondition_of_parts _ _ message irritants third, equal_condition _ _ _ _⟩

/-- The message is a symbol of another table, and the irritants are a condition with one of its own and a
string with a quote in it. -/
theorem apply_signals_nested :
    let executor : Executor Unit := .withoutEvaluator 0 fun _ _ => return .unspecified
    let machine : Machine Unit := ⟨{}, ()⟩
    let inner : Value := .condition 0 "m" [.null]
    let irritants : List Value := [inner, .string 1 "\""]
    ∃ text payload later condition made,
      executor.apply errorProcedure (.symbol (.ofParts 9 0 0) :: irritants) machine =
        (.error (.raised text payload), later) ∧
      executor.apply makeCondition (.symbol (.ofParts 9 0 0) :: irritants) machine = (.ok condition, made) ∧
      payload.equal condition = true ∧ IsCondition "#<symbol 9:0:0>" irritants payload ∧
      ∃ caught, executor.apply raiseProcedure [payload] machine = (.error (.raised text caught), machine) ∧
        caught.eqv payload = true := by
  intro executor machine inner irritants
  obtain ⟨text, alike⟩ := (executor.apply_signals (.bare 0)).1 (.symbol (.ofParts 9 0 0)) irritants
  obtain ⟨payload, later, condition, made, fails, makes, same, objects⟩ := alike machine machine rfl rfl
  obtain ⟨isCondition, keeps⟩ := objects payload List.mem_cons_self
  have message : ((Value.symbol (.ofParts 9 0 0)).asText?.getD
      ((Value.symbol (.ofParts 9 0 0)).written (.bare 0))) = "#<symbol 9:0:0>" := by decide +kernel
  rw [message] at isCondition
  exact ⟨text, payload, later, condition, made, fails, makes, same, isCondition,
    keeps payload .refl machine rfl⟩

end Executor

end SchemeBase
