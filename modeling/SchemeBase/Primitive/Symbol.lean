import SchemeBase.Arity

/-! # Primitives on symbols

The symbol predicate and comparison, and the passage between symbols and their spellings.
-/

namespace SchemeBase

/-- The primitives of the symbol library. -/
inductive SymbolPrimitive where
  | isSymbol
  | toText
  | ofText
  | sameSymbol
deriving DecidableEq, Repr

namespace SymbolPrimitive

/-- The primitives in binding order. -/
def all : List SymbolPrimitive := [isSymbol, toText, ofText, sameSymbol]

/-- The name a primitive is bound to. -/
def name : SymbolPrimitive → String
  | isSymbol => "symbol?"
  | toText => "symbol->string"
  | ofText => "string->symbol"
  | sameSymbol => "symbol=?"

/-- The arguments a primitive takes. -/
def arity : SymbolPrimitive → Arity
  | isSymbol | toText | ofText => .exactly 1
  | sameSymbol => .atLeast 2

end SymbolPrimitive

end SchemeBase
