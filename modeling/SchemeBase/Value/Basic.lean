import SchemeBase.Primitive.Basic
import SchemeBase.SpecialForm
import SchemeBase.Symbol.Basic

/-! # Values

What programs compute with. Booleans, characters, integers, symbols and markers are known by their
contents; primitives by what they are; strings, pairs, lambdas and conditions also by the
allocation that made them. An allocation is a number, and contents never change, so a value is a
plain tree in which shared parts carry the same number.
-/

namespace SchemeBase

/-- The number of an allocation. -/
abbrev Identity := Nat

/-- The number of a frame of bindings. -/
abbrev FrameId := Nat

/-- A user procedure over a kind of datum `β`: required parameters, the parameter that takes the
surplus, the body as read, the frame it closes over, and a name if it was given one. -/
structure Closure (β : Type) where
  params : List Symbol
  rest : Option Symbol
  body : β
  frame : FrameId
  name : Option Symbol

/-- The arguments a closure takes. -/
def Closure.arity {β : Type} (closure : Closure β) : Arity :=
  if closure.rest.isSome then .atLeast closure.params.length else .exactly closure.params.length

/-- The types that error messages tell apart. -/
inductive ValueType where
  | null
  | unspecified
  | boolean
  | char
  | integer
  | symbol
  | marker
  | procedure
  | string
  | pair
  | condition
deriving DecidableEq, Repr

/-- The name of a type in messages. -/
def ValueType.name : ValueType → String
  | null => "null"
  | unspecified => "unspecified"
  | boolean => "boolean"
  | char => "char"
  | integer => "integer"
  | symbol => "symbol"
  | marker => "syntax"
  | procedure => "procedure"
  | string => "string"
  | pair => "pair"
  | condition => "condition"

/-- A value. Integers have 64 bits. -/
inductive Value where
  | null
  | unspecified
  | boolean (value : Bool)
  | char (value : Char)
  | integer (value : Int64)
  | symbol (value : Symbol)
  | marker (form : SpecialForm)
  | primitive (primitive : Primitive)
  | string (id : Identity) (text : String)
  | pair (id : Identity) (car cdr : Value)
  | lambda (id : Identity) (code : Closure Value)
  | condition (id : Identity) (message : String) (irritants : List Value)

/-- A user procedure. -/
abbrev Lambda := Closure Value

namespace Value

instance : Inhabited Value := ⟨null⟩

/-- The type of a value in messages. -/
def type : Value → ValueType
  | null => .null
  | unspecified => .unspecified
  | boolean _ => .boolean
  | char _ => .char
  | integer _ => .integer
  | symbol _ => .symbol
  | marker _ => .marker
  | primitive _ => .procedure
  | string .. => .string
  | pair .. => .pair
  | lambda .. => .procedure
  | condition .. => .condition

/-- Only false is false. -/
def isTrue : Value → Bool
  | boolean value => value
  | _ => true

/-- The arguments a procedure takes; other values take none and have no arity. -/
def arity? : Value → Option Arity
  | primitive p => some p.arity
  | lambda _ code => some code.arity
  | _ => none

/-- Primitives and lambdas are procedures; markers of special forms are not. -/
def isProcedure : Value → Bool
  | primitive _ | lambda .. => true
  | _ => false

/-- The contents of a boolean. -/
def asBoolean? : Value → Option Bool
  | boolean value => some value
  | _ => none

/-- The contents of a character value. -/
def asChar? : Value → Option Char
  | char value => some value
  | _ => none

/-- The contents of an integer. -/
def asInteger? : Value → Option Int64
  | integer value => some value
  | _ => none

/-- The symbol that a symbol value holds. -/
def asSymbol? : Value → Option Symbol
  | symbol value => some value
  | _ => none

/-- The special form that a marker stands for. -/
def asMarker? : Value → Option SpecialForm
  | marker form => some form
  | _ => none

/-- The text of a string. -/
def asText? : Value → Option String
  | string _ text => some text
  | _ => none

/-- The message and the irritants of a condition. -/
def asCondition? : Value → Option (String × List Value)
  | condition _ message irritants => some (message, irritants)
  | _ => none

/-- The fields of a pair. -/
def asPair? : Value → Option (Value × Value)
  | pair _ car cdr => some (car, cdr)
  | _ => none

/-- The chain of pairs with the given cars that ends in `tail`. The pairs take consecutive
identities from `first` on, the front pair the first of them. -/
def listFrom (first : Identity) (items : List Value) (tail : Value) : Value :=
  (items.zipIdx first).foldr (fun (item, id) rest => pair id item rest) tail

@[simp] theorem listFrom_nil (first : Identity) (tail : Value) : listFrom first [] tail = tail :=
  rfl

@[simp] theorem listFrom_cons (first : Identity) (item : Value) (items : List Value)
    (tail : Value) :
    listFrom first (item :: items) tail = pair first item (listFrom (first + 1) items tail) :=
  rfl

/-- The cars along the spine, after those already found, if the spine ends in the empty list. -/
def elementsAfter (found : List Value) : Value → Option (List Value)
  | null => some found.reverse
  | pair _ car cdr => elementsAfter (car :: found) cdr
  | _ => none

/-- The elements of a proper list. -/
def toList? (value : Value) : Option (List Value) :=
  elementsAfter [] value

theorem elementsAfter_listFrom (found items : List Value) (first : Identity) :
    elementsAfter found (listFrom first items null) = some (found.reverse ++ items) := by
  induction items generalizing found first with
  | nil => simp [elementsAfter]
  | cons item items ih => simp [elementsAfter, ih]

/-- A list that is made of some elements has these elements. -/
@[simp] theorem toList?_listFrom (first : Identity) (items : List Value) :
    (listFrom first items null).toList? = some items :=
  elementsAfter_listFrom [] items first

/-- The size of a value as a binary tree: pairs are its nodes and all else are leaves. -/
def size : Value → Nat
  | pair _ car cdr => car.size + cdr.size + 1
  | _ => 1

/-- The total size of several values. -/
def totalSize : List Value → Nat
  | [] => 0
  | value :: values => value.size + totalSize values

end Value

end SchemeBase
