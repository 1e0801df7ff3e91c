import SchemeBase.Value.Basic

/-! # Equivalence of values

Two relations. `eqv` compares allocations where a value has one and contents elsewhere. `equal`
looks through pairs, strings and conditions and agrees with `eqv` on all other values.
-/

namespace SchemeBase.Value

/-- Same contents for values without an allocation, same allocation for the others. -/
def eqv : Value → Value → Bool
  | null, null => true
  | unspecified, unspecified => true
  | boolean a, boolean b => a == b
  | char a, char b => a == b
  | integer a, integer b => a == b
  | symbol a, symbol b => a == b
  | marker a, marker b => a == b
  | primitive a, primitive b => a == b
  | string a _, string b _ => a == b
  | pair a _ _, pair b _ _ => a == b
  | lambda a _, lambda b _ => a == b
  | condition a _ _, condition b _ _ => a == b
  | _, _ => false

mutual

/-- Same contents, pairs by car and cdr, strings by text, conditions by message and irritants. A
pair is equal to itself without looking inside. -/
def equal : Value → Value → Bool
  | pair i a b, pair j c d => i == j || (equal a c && equal b d)
  | string _ a, string _ b => a == b
  | condition _ a xs, condition _ b ys => a == b && equalAll xs ys
  | a, b => eqv a b

/-- Equal element by element, and of one length. -/
def equalAll : List Value → List Value → Bool
  | [], [] => true
  | x :: xs, y :: ys => equal x y && equalAll xs ys
  | _, _ => false

end

end SchemeBase.Value
