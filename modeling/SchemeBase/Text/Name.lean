import SchemeBase.Text.Error
import SchemeBase.Unicode.WhiteSpace

/-! # Names a library may bind

A name is checked before it is interned, so that a malformed name refuses the whole library
instead of making a binding no program can reach. NUL is looked for first, then the empty name,
then white space.
-/

namespace SchemeBase.Text

/-- The byte offset of the first character that satisfies `test`, counting from `offset`. -/
def offsetFrom? (test : Char → Bool) (offset : Nat) : List Char → Option Nat
  | [] => none
  | c :: rest => if test c then some offset else offsetFrom? test (offset + c.utf8Size) rest

/-- The byte offset of the first character of a text that satisfies `test`. -/
def offset? (test : Char → Bool) (text : String) : Option Nat :=
  offsetFrom? test 0 text.toList

/-- A name has at least one character, no NUL and no white space; the answer is its number of
characters. -/
def checkName (name : String) : Except TextError Nat :=
  match offset? (· == '\x00') name with
  | some offset => .error (.interiorNul offset)
  | none =>
    if name.isEmpty then
      .error .empty
    else
      match offset? Unicode.isWhiteSpace name with
      | some offset => .error (.whiteSpace offset)
      | none => .ok name.length

end SchemeBase.Text
