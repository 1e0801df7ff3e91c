import SchemeBase.Store.Environment
import SchemeBase.Text.Name
import SchemeBase.Text.Quoted

/-! # Libraries

A library is a named list of bindings that is installed as one unit, and only into a global
environment. All names are checked before the first is interned, so a refused library leaves no
trace. A name may stand in the list several times; its last value stays.
-/

namespace SchemeBase

/-- A name and the value it is bound to. -/
structure Binding where
  name : String
  value : Value

/-- A named list of bindings. -/
structure Library where
  name : String
  bindings : List Binding

/-- Why a library is not installed. -/
inductive InstallError where
  | invalidName (library name : String) (cause : TextError)
  | notGlobal (library : String)
  /-- A new name found its shard of the symbol table full. -/
  | internFailed (cause : InternError)
deriving DecidableEq, Repr

/-- The wording of each error. -/
def InstallError.message : InstallError → String
  | invalidName library name cause =>
    "library `" ++ library ++ "`: invalid name " ++ Text.quoted name ++ ": " ++ cause.message
  | notGlobal library =>
    "library `" ++ library ++ "` must be installed into a global environment"
  | internFailed cause => cause.message

namespace Library

/-- A library without bindings. -/
def empty (name : String) : Library := ⟨name, []⟩

/-- Adds bindings at the end. -/
def append (library : Library) (bindings : List Binding) : Library :=
  { library with bindings := library.bindings ++ bindings }

/-- Adds a binding at the end. -/
def bind (library : Library) (name : String) (value : Value) : Library :=
  library.append [⟨name, value⟩]

/-- The number of bindings, repeated names included. -/
def size (library : Library) : Nat :=
  library.bindings.length

/-- The first name that is not a valid one, with the reason. -/
def invalidName? (library : Library) : Option (String × TextError) :=
  library.bindings.findSome? fun binding =>
    match Text.checkName binding.name with
    | .ok _ => none
    | .error cause => some (binding.name, cause)

/-- Checks every name, in binding order. -/
def checkNames (library : Library) : Except InstallError Unit :=
  match library.invalidName? with
  | some (name, cause) => .error (.invalidName library.name name cause)
  | none => .ok ()

end Library

/-- Defines bindings in order in a frame. -/
def Store.defineAll (e : FrameId) (bindings : List Binding) : StoreM InternError Unit :=
  bindings.forM fun binding => discard (Store.defineNamed e binding.name binding.value)

/-- Installs a library into a global environment and answers the number of its bindings. -/
def Library.install (library : Library) (e : FrameId) : StoreM InstallError Nat := do
  unless (← get).isGlobal e do
    throw (.notGlobal library.name)
  StoreM.ofExcept library.checkNames
  (Store.defineAll e library.bindings).mapError .internFailed
  return library.size

end SchemeBase
