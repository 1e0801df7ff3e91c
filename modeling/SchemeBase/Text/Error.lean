/-! # Reasons to refuse a text

A name or a text that a host hands over can be refused for its encoding, for being empty, or for a
character that would cut it short or split it. Every offset counts bytes of the UTF-8 form.
-/

namespace SchemeBase

/-- Why a text is refused. -/
inductive TextError where
  /-- The bytes stop being UTF-8 after the first `validUpTo` of them. -/
  | invalidUtf8 (validUpTo : Nat)
  /-- A name needs a character. -/
  | empty
  /-- A NUL character stands at this offset. -/
  | interiorNul (offset : Nat)
  /-- White space stands at this offset. -/
  | whiteSpace (offset : Nat)
deriving DecidableEq, Repr

namespace TextError

/-- The offset an error reports; an empty name has none. -/
def offset? : TextError → Option Nat
  | invalidUtf8 validUpTo => some validUpTo
  | empty => none
  | interiorNul offset => some offset
  | whiteSpace offset => some offset

/-- The wording of each error. -/
def message : TextError → String
  | invalidUtf8 validUpTo => "invalid UTF-8 after byte " ++ toString validUpTo
  | empty => "name is empty"
  | interiorNul offset => "NUL byte at offset " ++ toString offset
  | whiteSpace offset => "whitespace at offset " ++ toString offset

end TextError

end SchemeBase
