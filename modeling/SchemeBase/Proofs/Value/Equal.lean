import SchemeBase.Proofs.Value.Eqv
import SchemeBase.Proofs.Value.Sharing

/-! # Equality of values is equality of trees

Forgetting which allocation made a pair, a string or a condition leaves a plain tree. Values that
share their parts are equal just when their trees are. The comparison takes a short way where it
meets one pair on both sides; as one number stands for one value, that never changes the answer.
-/

namespace SchemeBase

/-- What a value is without the identities of its pairs, strings and conditions. Procedures remain
what they are, and symbols keep their handles. -/
inductive Tree where
  | null
  | unspecified
  | boolean (value : Bool)
  | char (value : Char)
  | integer (value : Int64)
  | symbol (value : Symbol)
  | marker (form : SpecialForm)
  | primitive (primitive : Primitive)
  | lambda (id : Identity)
  | string (text : String)
  | pair (car cdr : Tree)
  | condition (message : String) (irritants : List Tree)

namespace Value

mutual

/-- Forgets the identities of pairs, strings and conditions. -/
def tree : Value → Tree
  | null => .null
  | unspecified => .unspecified
  | boolean value => .boolean value
  | char value => .char value
  | integer value => .integer value
  | symbol value => .symbol value
  | marker form => .marker form
  | primitive p => .primitive p
  | lambda id _ => .lambda id
  | string _ text => .string text
  | pair _ car cdr => .pair (tree car) (tree cdr)
  | condition _ message irritants => .condition message (trees irritants)

/-- The trees of several values. -/
def trees : List Value → List Tree
  | [] => []
  | value :: values => tree value :: trees values

end

mutual

/-- Same contents, looked for inside every pair. -/
def deepEqual : Value → Value → Bool
  | pair _ a b, pair _ c d => deepEqual a c && deepEqual b d
  | string _ a, string _ b => a == b
  | condition _ a xs, condition _ b ys => a == b && deepEqualAll xs ys
  | a, b => eqv a b

/-- Deeply equal element by element, and of one length. -/
def deepEqualAll : List Value → List Value → Bool
  | [], [] => true
  | x :: xs, y :: ys => deepEqual x y && deepEqualAll xs ys
  | _, _ => false

end

mutual

/-- A comparison that looks inside every pair compares trees. -/
theorem deepEqual_iff (a b : Value) : a.deepEqual b = true ↔ a.tree = b.tree := by
  cases a with
  | pair _ car cdr =>
    cases b with
    | pair _ otherCar otherCdr =>
      simp [deepEqual, tree, deepEqual_iff car otherCar, deepEqual_iff cdr otherCdr]
    | _ => simp [deepEqual, eqv, tree]
  | condition _ _ irritants =>
    cases b with
    | condition _ _ others => simp [deepEqual, tree, deepEqualAll_iff irritants others]
    | _ => simp [deepEqual, eqv, tree]
  | _ => cases b <;> simp [deepEqual, eqv, tree]

theorem deepEqualAll_iff (xs ys : List Value) : deepEqualAll xs ys = true ↔ trees xs = trees ys := by
  cases xs with
  | nil => cases ys <;> simp [deepEqualAll, trees]
  | cons x xs =>
    cases ys with
    | nil => simp [deepEqualAll, trees]
    | cons y ys => simp [deepEqualAll, trees, deepEqual_iff x y, deepEqualAll_iff xs ys]

end

/-! ## The short way -/

/-- An allocation that occurs in both values has the same contents in both. -/
def Compatible (a b : Value) : Prop :=
  ∀ one other : Value, one.Within a → other.Within b → ∀ id : Identity,
    one.identity? = some id → other.identity? = some id → one = other

variable {a b x y : Value} {values : List Value} {free : Identity → Prop}

theorem Compatible.field (compatible : Compatible a b) (left : x ∈ a.fields)
    (right : y ∈ b.fields) : Compatible x y :=
  fun one other inA inB => compatible one other (.field left inA) (.field right inB)

theorem Sharing.compatible (sharing : Sharing values free) (memberA : a ∈ values)
    (memberB : b ∈ values) : Compatible a b :=
  fun one other inA inB => sharing.coherent one other ⟨a, memberA, inA⟩ ⟨b, memberB, inB⟩

/-- Equivalent values that share their parts are the same. -/
theorem Compatible.eq_of_eqv (compatible : Compatible a b) (same : a.eqv b = true) : a = b := by
  have shared := compatible a b .here .here
  cases a <;> cases b <;> simp_all [eqv, identity?]

mutual

/-- Where values share their parts, a pair that is met on both sides need not be looked into. -/
theorem equal_eq_deepEqual (a b : Value) (compatible : Compatible a b) :
    a.equal b = a.deepEqual b := by
  cases a with
  | pair i car cdr =>
    cases b with
    | pair j otherCar otherCdr =>
      have cars := equal_eq_deepEqual car otherCar
        (compatible.field (by simp [fields]) (by simp [fields]))
      have cdrs := equal_eq_deepEqual cdr otherCdr
        (compatible.field (by simp [fields]) (by simp [fields]))
      rw [equal]
      by_cases met : i = j
      · -- The two pairs are one, and nothing differs from itself.
        have same := compatible _ _ .here .here i rfl (congrArg some met.symm)
        rw [same, (deepEqual_iff _ _).mpr rfl, met, beq_self_eq_true, Bool.true_or]
      · rw [beq_false_of_ne met, Bool.false_or, cars, cdrs, deepEqual]
    | _ => rfl
  | condition _ _ irritants =>
    cases b with
    | condition _ _ others =>
      have all := equalAll_eq_deepEqualAll irritants others fun x left y right =>
        compatible.field (by simpa [fields] using left) (by simpa [fields] using right)
      rw [equal, deepEqual, all]
    | _ => rfl
  | _ => cases b <;> rfl

theorem equalAll_eq_deepEqualAll (xs ys : List Value)
    (compatible : ∀ x ∈ xs, ∀ y ∈ ys, Compatible x y) : equalAll xs ys = deepEqualAll xs ys := by
  cases xs with
  | nil => cases ys <;> rfl
  | cons x xs =>
    cases ys with
    | nil => rfl
    | cons y ys =>
      have head := equal_eq_deepEqual x y
        (compatible x List.mem_cons_self y List.mem_cons_self)
      have tail := equalAll_eq_deepEqualAll xs ys fun other left another right =>
        compatible other (List.mem_cons_of_mem _ left) another (List.mem_cons_of_mem _ right)
      rw [equalAll, deepEqualAll, head, tail]

end

theorem Compatible.equal_iff (compatible : Compatible a b) : a.equal b = true ↔ a.tree = b.tree := by
  rw [equal_eq_deepEqual a b compatible, deepEqual_iff]

theorem equalAll_iff {xs ys : List Value} (compatible : ∀ x ∈ xs, ∀ y ∈ ys, Compatible x y) :
    equalAll xs ys = true ↔ trees xs = trees ys := by
  rw [equalAll_eq_deepEqualAll xs ys compatible, deepEqualAll_iff]

theorem equalAll_of_forall₂ {xs ys : List Value}
    (same : List.Forall₂ (fun x y => x.equal y = true) xs ys) : equalAll xs ys = true := by
  induction same with
  | nil => rfl
  | cons head _ ih => rw [equalAll, head, ih, Bool.and_self]

mutual

/-- Every value is equal to itself, whatever its parts are. -/
theorem equal_refl (value : Value) : value.equal value = true := by
  cases value with
  | pair => rw [equal, beq_self_eq_true, Bool.true_or]
  | string => rw [equal, beq_self_eq_true]
  | condition _ _ irritants => rw [equal, beq_self_eq_true, equalAll_refl irritants, Bool.and_self]
  | _ => simp [equal]

theorem equalAll_refl (values : List Value) : equalAll values values = true := by
  cases values with
  | nil => rfl
  | cons value values => rw [equalAll, equal_refl value, equalAll_refl values, Bool.and_self]

end

end Value

open Value

/-- Made values are equal just when they are the same tree, with or without the short way through
shared pairs. So equality is an equivalence relation that contains the finer one, and pairs and
conditions with equal parts are equal. -/
theorem Store.Made.equal_iff_tree_eq {values : List Value} {store : Store} (made : Made values store) :
    (∀ a ∈ values, ∀ b ∈ values, (a.equal b = true ↔ a.tree = b.tree) ∧
      a.equal b = a.deepEqual b ∧ (a.eqv b = true → a.equal b = true)) ∧
    Equivalence (fun a b : {value // value ∈ values} => a.1.equal b.1 = true) ∧
    (∀ a b c d : Value, a.equal c = true → b.equal d = true → ∀ i j : Identity,
      (Value.pair i a b).equal (.pair j c d) = true) ∧
    (∀ xs ys : List Value, List.Forall₂ (fun x y => x.equal y = true) xs ys →
      ∀ (message : String) (i j : Identity),
        (Value.condition i message xs).equal (.condition j message ys) = true) ∧
    Equivalence (fun a b : Value => a.eqv b = true) := by
  have compatible (a : Value) (memberA : a ∈ values) (b : Value) (memberB : b ∈ values) :
      Compatible a b := made.sharing.compatible memberA memberB
  have iff (a b : {value // value ∈ values}) : a.1.equal b.1 = true ↔ a.1.tree = b.1.tree :=
    (compatible a a.2 b b.2).equal_iff
  refine ⟨fun a memberA b memberB => ?_, ⟨fun a => ?_, fun {a b} same => ?_,
    fun {a b c} left right => ?_⟩, ?_, ?_, ?_⟩
  · have known := compatible a memberA b memberB
    refine ⟨known.equal_iff, equal_eq_deepEqual a b known, fun same => ?_⟩
    rw [known.equal_iff, known.eq_of_eqv same]
  · exact (iff a a).mpr rfl
  · exact (iff b a).mpr ((iff a b).mp same).symm
  · exact (iff a c).mpr (((iff a b).mp left).trans ((iff b c).mp right))
  · intro a b c d cars cdrs i j
    rw [equal, cars, cdrs, Bool.and_self, Bool.or_true]
  · intro xs ys same message i j
    rw [equal, beq_self_eq_true, equalAll_of_forall₂ same, Bool.and_self]
  · exact ⟨eqv_refl, fun {a b} same => (eqv_comm b a).trans same, eqv_trans⟩

/-- Two pairs of different allocations, one with a string on both sides and one with the string and
a copy of it, are one tree and no equivalent values. -/
theorem Store.Made.equal_iff_tree_eq_copied :
    let text : Value := .string 0 "x"
    let copy : Value := .string 1 "x"
    let twice : Value := .pair 2 text text
    let mixed : Value := .pair 3 text copy
    Made [mixed, twice, copy, text] { nextIdentity := 4 } ∧ twice.tree = mixed.tree ∧
      twice.equal mixed = true ∧ twice.equal mixed = twice.deepEqual mixed ∧
      twice.eqv mixed = false := by
  intro text copy twice mixed
  have texts : Made [copy, text] { nextIdentity := 2 } :=
    .call (.call (.start {}) (.string "x")) (.string "x")
  have pairs : Made [twice, copy, text] { nextIdentity := 3 } :=
    .call texts (.pair (by simp) (by simp))
  have made : Made [mixed, twice, copy, text] { nextIdentity := 4 } :=
    .call pairs (.pair (by simp) (by simp))
  have same : twice.tree = mixed.tree := by simp [twice, mixed, text, copy, tree]
  obtain ⟨iff, short, _⟩ := made.equal_iff_tree_eq.1 twice (by simp) mixed (by simp)
  exact ⟨made, same, iff.mpr same, short, rfl⟩

end SchemeBase
