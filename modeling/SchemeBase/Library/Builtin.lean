import SchemeBase.Library.Basic

/-! # The built-in libraries

Six libraries, with their names and bindings in a fixed order. They bind primitives, the two
boolean constants and the markers of the special forms; none of these has an allocation, so a
second installation binds values equivalent to those of the first.
-/

namespace SchemeBase

/-- A built-in library. -/
inductive LibraryKind where
  | procedure
  | character
  | condition
  | syntactic
  | symbol
  | boolean
deriving DecidableEq, Repr

namespace LibraryKind

/-- Every built-in library, in the order in which they are installed together. -/
def all : List LibraryKind := [procedure, character, condition, syntactic, symbol, boolean]

/-- The name of a built-in library. -/
def name : LibraryKind → String
  | procedure => "procedure"
  | character => "char"
  | condition => "error"
  | syntactic => "syntax"
  | symbol => "symbol"
  | boolean => "bool"

/-- The built-in library with a given name. -/
def ofName? (name : String) : Option LibraryKind :=
  all.find? (·.name == name)

/-- A primitive under its own name. -/
def bindPrimitive (primitive : Builtin) : Binding :=
  ⟨primitive.name, .primitive (.builtin primitive)⟩

/-- What a built-in library binds. -/
def bindings : LibraryKind → List Binding
  | procedure => ProcedurePrimitive.all.map fun p => bindPrimitive (.procedure p)
  | character => CharacterPrimitive.all.map fun p => bindPrimitive (.character p)
  | condition => ConditionPrimitive.all.map fun p => bindPrimitive (.condition p)
  | syntactic => SpecialForm.all.map fun form => ⟨form.keyword, .marker form⟩
  | symbol => SymbolPrimitive.all.map fun p => bindPrimitive (.symbol p)
  | boolean =>
    [⟨"true", .boolean true⟩, ⟨"false", .boolean false⟩] ++
      BooleanPrimitive.all.map fun p => bindPrimitive (.boolean p)

/-- A built-in library. -/
def library (kind : LibraryKind) : Library :=
  ⟨kind.name, kind.bindings⟩

/-- Installs one built-in library by itself. -/
def install (kind : LibraryKind) (e : FrameId) : StoreM InstallError Unit :=
  discard (kind.library.install e)

/-- The value that a built-in library gives a name. -/
def builtinValue? (name : String) : Option Value :=
  (all.flatMap bindings).find? (·.name == name) |>.map (·.value)

end LibraryKind

end SchemeBase
