import SchemeBase.Value.Written

/-! # Equations of the written form

A value is written behind any text as it is written alone. So the written form follows the value: a
pair is an opening parenthesis, its car, and what is left of the list, and that in turn follows the
cdr.
-/

namespace SchemeBase.Value

variable {table : SymbolTable} {value : Value}

variable (table) in
/-- What follows the first element of a list, with the closing parenthesis. -/
def writtenTail (value : Value) : String :=
  writeTailAfter table "" value

theorem writeAfter_of_ne_pair (before : String) (single : value.type ≠ .pair) :
    writeAfter table before value = before ++ leafText table value := by
  cases value <;> first | rfl | exact absurd rfl single

theorem writeTailAfter_of_ne (before : String) (single : value.type ≠ .pair)
    (unclosed : value.type ≠ .null) :
    writeTailAfter table before value = before ++ " . " ++ leafText table value ++ ")" := by
  cases value <;> first | rfl | exact absurd rfl single | exact absurd rfl unclosed

mutual

theorem writeAfter_eq (before : String) (value : Value) :
    writeAfter table before value = before ++ value.written table := by
  cases value with
  | pair _ car cdr =>
    simp only [written, writeAfter]
    rw [writeTailAfter_eq _ cdr, writeAfter_eq _ car, writeTailAfter_eq (writeAfter ..) cdr,
      writeAfter_eq ("" ++ "(") car]
    simp only [String.append_assoc, String.empty_append]
  | _ => simp only [written, writeAfter, String.empty_append]

theorem writeTailAfter_eq (before : String) (value : Value) :
    writeTailAfter table before value = before ++ value.writtenTail table := by
  cases value with
  | pair _ car cdr =>
    simp only [writtenTail, writeTailAfter]
    rw [writeTailAfter_eq _ cdr, writeAfter_eq _ car, writeTailAfter_eq (writeAfter ..) cdr,
      writeAfter_eq ("" ++ " ") car]
    simp only [String.append_assoc, String.empty_append]
  | _ => simp only [writtenTail, writeTailAfter, String.empty_append, String.append_assoc]

end

theorem written_of_ne_pair (single : value.type ≠ .pair) :
    value.written table = leafText table value := by
  rw [written, writeAfter_of_ne_pair _ single, String.empty_append]

theorem written_pair (id : Identity) (car cdr : Value) :
    (pair id car cdr).written table = "(" ++ car.written table ++ cdr.writtenTail table := by
  rw [written, writeAfter, writeTailAfter_eq, writeAfter_eq, String.empty_append]

@[simp] theorem writtenTail_null : null.writtenTail table = ")" := rfl

theorem writtenTail_pair (id : Identity) (car cdr : Value) :
    (pair id car cdr).writtenTail table = " " ++ car.written table ++ cdr.writtenTail table := by
  rw [writtenTail, writeTailAfter, writeTailAfter_eq, writeAfter_eq, String.empty_append]

theorem writtenTail_of_ne (single : value.type ≠ .pair) (unclosed : value.type ≠ .null) :
    value.writtenTail table = " . " ++ value.written table ++ ")" := by
  rw [writtenTail, writeTailAfter_of_ne _ single unclosed, written_of_ne_pair single,
    String.empty_append]

end SchemeBase.Value
