import SchemeBase.Symbol.Table
import SchemeBase.Value.Basic

/-! # Written form

The external representation of a value, with the spellings of one symbol table. A symbol that the
table did not issue is written as its placeholder, so writing never fails. A chain of pairs is
written flat, however long it is, and only a last tail other than the empty list follows a dot.
-/

namespace SchemeBase

/-- A character in its external form: by name if it would not show, otherwise as itself. -/
def charText (c : Char) : String :=
  "#\\" ++
    match c with
    | ' ' => "space"
    | '\n' => "newline"
    | '\t' => "tab"
    | '\r' => "return"
    | '\x00' => "null"
    | '\x07' => "alarm"
    | '\x08' => "backspace"
    | '\x1b' => "escape"
    | '\x7f' => "delete"
    | c => c.toString

/-- A character inside a written string. -/
def stringCharText (c : Char) : String :=
  match c with
  | '\x22' => "\\\""
  | '\\' => "\\\\"
  | '\n' => "\\n"
  | '\t' => "\\t"
  | c => c.toString

/-- A string in its external form. -/
def stringText (text : String) : String :=
  "\"" ++ String.join (text.toList.map stringCharText) ++ "\""

namespace Value

variable (table : SymbolTable)

/-- The written form of a value that is not a pair. -/
def leafText : Value → String
  | null => "()"
  | unspecified => "#<unspecified>"
  | boolean true => "#t"
  | boolean false => "#f"
  | char c => charText c
  | integer n => toString n.toInt
  | symbol s => table.spelling s
  | marker form => "#<syntax " ++ form.keyword ++ ">"
  | primitive p => "#<primitive " ++ p.name ++ ">"
  | string _ text => stringText text
  | lambda _ ⟨_, _, _, _, some name⟩ => "#<procedure " ++ table.spelling name ++ ">"
  | lambda _ ⟨_, _, _, _, none⟩ => "#<procedure>"
  | condition _ message _ => "#<condition " ++ message ++ ">"
  | pair .. => ""

mutual

/-- Writes a value behind the text `before`. -/
def writeAfter (before : String) : Value → String
  | pair _ car cdr => writeTailAfter (writeAfter (before ++ "(") car) cdr
  | value => before ++ leafText table value

/-- Writes what follows the first element of a list, with the closing parenthesis. -/
def writeTailAfter (before : String) : Value → String
  | pair _ car cdr => writeTailAfter (writeAfter (before ++ " ") car) cdr
  | null => before ++ ")"
  | value => before ++ " . " ++ leafText table value ++ ")"

end

/-- The written form of a value. -/
def written (value : Value) : String :=
  writeAfter table "" value

end Value

end SchemeBase
