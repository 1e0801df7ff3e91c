import SchemeBase.Text.Error

/-! # Length of encoded text

A host may hand over bytes that still carry a terminating NUL. The text is what stands before the
first NUL; it must be UTF-8, and its length counts characters. Nothing after the terminator is
read, so a character that the terminator cuts short is an encoding error.
-/

namespace SchemeBase.Text

/-- Counts the characters from byte `offset` to the end, after `count` earlier ones. Each character
is decoded where the one before it ended, so the first failure is the end of the valid part. -/
def countFrom (bytes : ByteArray) (offset count : Nat) : Except TextError Nat :=
  if offset < bytes.size then
    match bytes.utf8DecodeChar? offset with
    | some c => countFrom bytes (offset + c.utf8Size) (count + 1)
    | none => .error (.invalidUtf8 offset)
  else
    .ok count
termination_by bytes.size - offset
decreasing_by
  have := c.utf8Size_pos
  omega

/-- The bytes before the first NUL, or all of them. -/
def beforeNul (bytes : ByteArray) : ByteArray :=
  bytes.extract 0 (bytes.data.findIdx (· == 0))

/-- The number of characters before the first NUL. -/
def length (bytes : ByteArray) : Except TextError Nat :=
  countFrom (beforeNul bytes) 0 0

end SchemeBase.Text
