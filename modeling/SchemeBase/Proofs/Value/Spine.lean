import SchemeBase.Proofs.Value.Equal

/-! # Spines

Following cdrs through pairs leads from any value to one that is no pair. The cars on the way and the
value at the end are the spine of the value. A list is a value whose spine ends in the empty list, whatever
allocations its pairs have, and its elements are the cars. So all lists of the same elements are equal, and
a value that is equal to a list is one.
-/

namespace SchemeBase

namespace Value

variable {a b value tail : Value} {items found : List Value}

/-- Following cdrs leads from a value through pairs with the cars `items` to `tail`. -/
inductive Spine (tail : Value) : List Value → Value → Prop
  | ends : Spine tail [] tail
  | pair (id : Identity) (car : Value) {items : List Value} {cdr : Value} (rest : Spine tail items cdr) :
      Spine tail (car :: items) (.pair id car cdr)

/-- The chain of pairs of a factory has the spine it was made of. -/
theorem spine_listFrom (first : Identity) (items : List Value) (tail : Value) :
    Spine tail items (listFrom first items tail) := by
  induction items generalizing first with
  | nil => exact .ends
  | cons item items ih => exact .pair first item (ih (first + 1))

/-- Every value has a spine that ends in no pair. -/
theorem exists_spine (value : Value) : ∃ items tail, tail.type ≠ .pair ∧ Spine tail items value := by
  cases value with
  | pair id car cdr =>
    obtain ⟨items, tail, single, rest⟩ := exists_spine cdr
    exact ⟨car :: items, tail, single, .pair id car rest⟩
  | _ => exact ⟨[], _, by simp [type], .ends⟩

namespace Spine

/-- The cars along a spine are smaller than the value, and so is the end of a spine with cars. -/
theorem size_lt (spine : Spine tail items value) :
    (∀ item ∈ items, item.size < value.size) ∧ (items ≠ [] → tail.size < value.size) := by
  induction spine with
  | ends => exact ⟨List.forall_mem_nil _, fun given => absurd rfl given⟩
  | @pair id car items cdr rest ih =>
    have bound : tail.size ≤ cdr.size := by
      cases rest with
      | ends => exact Nat.le_refl _
      | pair => exact Nat.le_of_lt (ih.2 (List.cons_ne_nil _ _))
    rw [size]
    refine ⟨List.forall_mem_cons.mpr ⟨by omega, fun item member => ?_⟩, fun _ => by omega⟩
    have below := ih.1 item member
    omega

/-- What is found along a spine is read before what is behind it. -/
theorem elementsAfter_eq (spine : Spine tail items value) (found : List Value) :
    elementsAfter found value = elementsAfter (items.reverse ++ found) tail := by
  induction spine generalizing found with
  | ends => rfl
  | pair id car rest ih => rw [elementsAfter, ih, List.reverse_cons, List.append_assoc, List.singleton_append]

theorem toList?_eq_some (spine : Spine null items value) : value.toList? = some items := by
  rw [toList?, spine.elementsAfter_eq, List.append_nil, elementsAfter, List.reverse_reverse]

theorem toList?_eq_none (spine : Spine tail items value) (single : tail.type ≠ .pair)
    (other : tail.type ≠ .null) : value.toList? = none := by
  rw [toList?, spine.elementsAfter_eq]
  cases tail <;> first | rfl | exact absurd rfl single | exact absurd rfl other

/-- Two chains with the same cars and the same end are equal. -/
theorem equal (left : Spine tail items a) (right : Spine tail items b) : a.equal b = true := by
  induction left generalizing b with
  | ends =>
    cases right with
    | ends => exact equal_refl tail
  | pair id car rest ih =>
    cases right with
    | pair other _ behind => rw [Value.equal, equal_refl car, ih behind, Bool.and_self, Bool.or_true]

/-- A value with the tree of a list is a list. -/
theorem of_tree_eq (spine : Spine null items a) (same : b.tree = a.tree) :
    ∃ others, Spine null others b := by
  induction spine generalizing b with
  | ends =>
    cases b <;> cases same
    exact ⟨[], .ends⟩
  | pair id car rest ih =>
    cases b with
    | pair other first behind =>
      obtain ⟨others, spine⟩ := ih (Tree.pair.inj same).2
      exact ⟨first :: others, .pair other first spine⟩
    | _ => cases same

end Spine

/-- A value is a list of some elements just when following cdrs from it ends in the empty list behind
them. -/
theorem toList?_eq_some_iff : value.toList? = some items ↔ Spine null items value := by
  refine ⟨fun read => ?_, Spine.toList?_eq_some⟩
  obtain ⟨others, tail, single, spine⟩ := exists_spine value
  by_cases closed : tail.type = .null
  · cases tail <;> cases closed
    cases spine.toList?_eq_some.symm.trans read
    exact spine
  · cases (spine.toList?_eq_none single closed).symm.trans read

end Value

end SchemeBase
