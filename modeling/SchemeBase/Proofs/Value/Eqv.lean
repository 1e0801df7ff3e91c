import SchemeBase.Value.Equality

/-! # Equivalence of values is an equivalence relation

Equivalence compares contents where a value has no allocation and allocations where it has one, so
it is an equality of keys. The three laws follow constructor by constructor.
-/

namespace SchemeBase.Value

@[simp] theorem eqv_refl (value : Value) : value.eqv value = true := by
  cases value <;> simp [eqv]

theorem eqv_comm (a b : Value) : a.eqv b = b.eqv a := by
  cases a <;> cases b <;> simp [eqv, Bool.beq_comm]

/-- Equivalent values are equivalent to the same values. -/
theorem eqv_congr {a b : Value} (same : a.eqv b = true) (c : Value) : a.eqv c = b.eqv c := by
  cases a <;> cases b <;> simp only [eqv, beq_iff_eq, Bool.false_eq_true] at same <;>
    cases c <;> simp [eqv, same]

theorem eqv_trans {a b c : Value} (left : a.eqv b = true) (right : b.eqv c = true) :
    a.eqv c = true :=
  (eqv_congr left c).trans right

end SchemeBase.Value
