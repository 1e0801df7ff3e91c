import SchemeBase.Proofs.Symbol.WellFormed
import SchemeBase.Proofs.Value.Equal
import SchemeBase.Proofs.Value.Written

/-! # What the written form shows

The written form of a value shows less than the value: of a condition its message, of a procedure its
name, and of a symbol its spelling. So it looks the same for equal values, and it changes with the
symbol table only where a symbol that is shown gets another spelling. A symbol that the table has
issued never does.
-/

namespace SchemeBase.Value

variable {a b value : Value} {t u table : SymbolTable}

/-- The symbols that printing a value looks up, in the order of the written form. Irritants are not
printed, and of a lambda only the name is. -/
def printed : Value → List Symbol
  | symbol value => [value]
  | lambda _ code => code.name.toList
  | pair _ car cdr => car.printed ++ cdr.printed
  | _ => []

/-- Values of one type that are no pairs are written alike when their texts are the same, by themselves
and at the end of a list. -/
theorem written_eq_of_leafText (types : a.type = b.type) (single : a.type ≠ .pair)
    (same : leafText t a = leafText u b) :
    a.written t = b.written u ∧ a.writtenTail t = b.writtenTail u := by
  have written : a.written t = b.written u := by
    rw [written_of_ne_pair single, written_of_ne_pair (types ▸ single), same]
  refine ⟨written, ?_⟩
  by_cases closed : a.type = .null
  · cases a <;> cases closed
    cases b <;> cases types
    rfl
  · rw [writtenTail_of_ne single closed, writtenTail_of_ne (types ▸ single) (types ▸ closed), written]

/-! ## Spellings -/

theorem leafText_congr (same : ∀ symbol ∈ value.printed, t.spelling symbol = u.spelling symbol) :
    leafText t value = leafText u value := by
  cases value with
  | symbol value => exact same value List.mem_cons_self
  | lambda id code =>
    obtain ⟨_, _, _, _, name⟩ := code
    cases name with
    | none => rfl
    | some name =>
      have spelled : t.spelling name = u.spelling name := same name List.mem_cons_self
      exact congrArg (fun text => "#<procedure " ++ text ++ ">") spelled
  | boolean value => cases value <;> rfl
  | _ => rfl

/-- Two tables write a value alike if they spell the symbols alike that are printed. By recursion on the
value, together with what follows the first element of a list. -/
theorem written_congr (value : Value)
    (same : ∀ symbol ∈ value.printed, t.spelling symbol = u.spelling symbol) :
    value.written t = value.written u ∧ value.writtenTail t = value.writtenTail u := by
  cases value with
  | pair id car cdr =>
    obtain ⟨left, right⟩ := List.forall_mem_append.mp same
    obtain ⟨cars, _⟩ := written_congr car left
    obtain ⟨_, cdrs⟩ := written_congr cdr right
    exact ⟨by rw [written_pair, written_pair, cars, cdrs],
      by rw [writtenTail_pair, writtenTail_pair, cars, cdrs]⟩
  | _ => exact written_eq_of_leafText rfl (by simp [type]) (leafText_congr same)

/-- Interning more spellings does not change how the symbols are written that the table owns. -/
theorem written_internAll (owned : ∀ symbol ∈ value.printed, table.owns symbol = true)
    (spellings : List String) : value.written (table.internAll spellings) = value.written table := by
  refine (written_congr value fun symbol member => ?_).1
  obtain ⟨spelling, read⟩ := Option.isSome_iff_exists.mp (owned symbol member)
  rw [SymbolTable.spelling_of_resolve? (SymbolTable.resolve?_internAll read spellings),
    SymbolTable.spelling_of_resolve? read]

/-! ## Equal values -/

theorem type_eq_of_tree_eq (same : a.tree = b.tree) : a.type = b.type := by
  cases a <;> cases b <;> first | rfl | cases same

/-- Of a lambda only the identity is left in the tree, but that tells its name as well. -/
theorem Compatible.leafText_eq (compatible : Compatible a b) (same : a.tree = b.tree) :
    leafText table a = leafText table b := by
  cases a with
  | pair => cases b <;> first | rfl | cases same
  | lambda id code =>
    cases b with
    | lambda other _ =>
      cases same
      rw [compatible.eq_of_eqv (beq_self_eq_true id)]
    | _ => cases same
  | condition _ message irritants =>
    cases b with
    | condition _ _ others =>
      obtain ⟨rfl, _⟩ := Tree.condition.inj same
      rfl
    | _ => cases same
  | _ =>
    cases b <;> cases same
    rfl

/-- Values of one tree that share their parts are written alike. -/
theorem Compatible.written_eq (a b : Value) (compatible : Compatible a b) (same : a.tree = b.tree) :
    a.written table = b.written table ∧ a.writtenTail table = b.writtenTail table := by
  cases a with
  | pair _ car cdr =>
    cases b with
    | pair _ otherCar otherCdr =>
      obtain ⟨sameCar, sameCdr⟩ := Tree.pair.inj same
      obtain ⟨cars, _⟩ := Compatible.written_eq car otherCar
        (compatible.field (by simp [fields]) (by simp [fields])) sameCar
      obtain ⟨_, cdrs⟩ := Compatible.written_eq cdr otherCdr
        (compatible.field (by simp [fields]) (by simp [fields])) sameCdr
      exact ⟨by rw [written_pair, written_pair, cars, cdrs],
        by rw [writtenTail_pair, writtenTail_pair, cars, cdrs]⟩
    | _ => cases same
  | _ =>
    exact written_eq_of_leafText (type_eq_of_tree_eq same) (by simp [type]) (compatible.leafText_eq same)

end SchemeBase.Value
