import SchemeBase.Arity
import SchemeBase.Unicode.Alphabetic
import SchemeBase.Unicode.CaseMapping
import SchemeBase.Unicode.Lowercase
import SchemeBase.Unicode.Numeric
import SchemeBase.Unicode.Uppercase
import SchemeBase.Unicode.WhiteSpace

/-! # Primitives on characters

Five comparisons, each with a form that ignores case, five classes, and the conversions between
characters, their cases and their code points.
-/

namespace SchemeBase

/-- A relation between two characters. -/
inductive Comparison where
  | equal
  | less
  | greater
  | lessOrEqual
  | greaterOrEqual
deriving DecidableEq, Repr

namespace Comparison

/-- The comparisons in binding order. -/
def all : List Comparison := [equal, less, greater, lessOrEqual, greaterOrEqual]

/-- The sign of a comparison in a name. -/
def sign : Comparison → String
  | equal => "="
  | less => "<"
  | greater => ">"
  | lessOrEqual => "<="
  | greaterOrEqual => ">="

/-- Characters are compared by code point. -/
def holds : Comparison → Char → Char → Bool
  | equal, a, b => a == b
  | less, a, b => a < b
  | greater, a, b => b < a
  | lessOrEqual, a, b => a ≤ b
  | greaterOrEqual, a, b => b ≤ a

end Comparison

/-- A class of characters. -/
inductive CharClass where
  | alphabetic
  | numeric
  | whiteSpace
  | uppercase
  | lowercase
deriving DecidableEq, Repr

namespace CharClass

/-- The classes in binding order. -/
def all : List CharClass := [alphabetic, numeric, whiteSpace, uppercase, lowercase]

/-- The name of a class inside the name of its predicate. -/
def label : CharClass → String
  | alphabetic => "alphabetic"
  | numeric => "numeric"
  | whiteSpace => "whitespace"
  | uppercase => "upper-case"
  | lowercase => "lower-case"

/-- Whether a class holds a character. -/
def contains : CharClass → Char → Bool
  | alphabetic => Unicode.isAlphabetic
  | numeric => Unicode.isNumeric
  | whiteSpace => Unicode.isWhiteSpace
  | uppercase => Unicode.isUppercase
  | lowercase => Unicode.isLowercase

end CharClass

/-- The primitives of the character library. -/
inductive CharacterPrimitive where
  | isChar
  /-- A comparison of neighbours in the argument list, in lower case if `foldCase` holds. -/
  | compare (foldCase : Bool) (relation : Comparison)
  | classify (kind : CharClass)
  | toInteger
  | ofInteger
  | upcase
  | downcase
deriving DecidableEq, Repr

namespace CharacterPrimitive

/-- The primitives in binding order. -/
def all : List CharacterPrimitive :=
  [isChar] ++ Comparison.all.map (compare false) ++ Comparison.all.map (compare true) ++
    CharClass.all.map classify ++ [toInteger, ofInteger, upcase, downcase]

/-- The name a primitive is bound to. -/
def name : CharacterPrimitive → String
  | isChar => "char?"
  | compare false relation => "char" ++ relation.sign ++ "?"
  | compare true relation => "char-ci" ++ relation.sign ++ "?"
  | classify kind => "char-" ++ kind.label ++ "?"
  | toInteger => "char->integer"
  | ofInteger => "integer->char"
  | upcase => "char-upcase"
  | downcase => "char-downcase"

/-- The arguments a primitive takes. -/
def arity : CharacterPrimitive → Arity
  | compare .. => .atLeast 2
  | isChar | classify _ | toInteger | ofInteger | upcase | downcase => .exactly 1

end CharacterPrimitive

end SchemeBase
