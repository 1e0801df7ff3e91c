import SchemeBase.Unicode.ExtendingMark
import SchemeBase.Unicode.Printable

/-! # Quoted text

The form in which diagnostics and error messages show a text or a character. Quotes and
backslashes take a backslash, four control characters have letters, and a character that would
not show, or a mark that would join the character before it, is given by its code point.
-/

namespace SchemeBase.Text

/-- A character by its code point, in lower case hexadecimal without padding. -/
def codePointEscape (c : Char) : String :=
  "\\u\x7b" ++ String.ofList (Nat.toDigits 16 c.toNat) ++ "\x7d"

/-- A character as it stands inside quotes of the kind `quote`. -/
def escapeChar (quote c : Char) : String :=
  if c = '\x00' then "\\0"
  else if c = '\t' then "\\t"
  else if c = '\n' then "\\n"
  else if c = '\r' then "\\r"
  else if c = quote then "\\" ++ quote.toString
  else if c = '\\' then "\\\\"
  else if Unicode.isExtendingMark c then codePointEscape c
  else if Unicode.isPrintable c then c.toString
  else codePointEscape c

/-- A text between double quotes. -/
def quoted (text : String) : String :=
  "\"" ++ String.join (text.toList.map (escapeChar '\x22')) ++ "\""

/-- A character between single quotes. -/
def quotedChar (c : Char) : String :=
  "\x27" ++ escapeChar '\x27' c ++ "\x27"

end SchemeBase.Text
