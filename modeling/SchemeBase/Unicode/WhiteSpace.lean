import SchemeBase.Unicode.Ranges

/-! # White space

The property White_Space of Unicode 17. It decides both the character predicate and which names
a library may bind.
-/

namespace SchemeBase.Unicode

/-- The code points with the property White_Space. -/
def whiteSpaceRanges : CodeRanges where
  ranges := [
    (0x9, 0xd), (0x20, 0x20), (0x85, 0x85), (0xa0, 0xa0), (0x1680, 0x1680), (0x2000, 0x200a),
    (0x2028, 0x2029), (0x202f, 0x202f), (0x205f, 0x205f), (0x3000, 0x3000)]

/-- Whether a character is white space. -/
def isWhiteSpace (c : Char) : Bool := whiteSpaceRanges.contains c

end SchemeBase.Unicode
