import SchemeBase.Library.Builtin
import SchemeBase.Value.Equality

/-! # Installing several libraries at once

A bootstrap selects built-in libraries, each at most once, and host libraries. Running it first
stages every binding: the names of a library are checked, then each binding is compared with the
first one of its name. Values that are not equivalent collide, and then nothing is defined. When
staging succeeds, each name is defined once, in the order in which names were first seen.
-/

namespace SchemeBase

/-- A selected library: a built-in one, known by its kind, or one that a host supplies. -/
inductive Selection where
  | builtin (kind : LibraryKind)
  | host (library : Library)

namespace Selection

/-- The library that is selected. -/
def library : Selection → Library
  | builtin kind => kind.library
  | host library => library

/-- Whether a built-in library of this kind is selected, whatever the name of a host library. -/
def isBuiltin (kind : LibraryKind) : Selection → Bool
  | builtin other => other = kind
  | host _ => false

/-- Whether a host library is selected. -/
def isHost : Selection → Bool
  | builtin _ => false
  | host _ => true

end Selection

/-- The selected libraries, in order. -/
structure Bootstrap where
  selections : List Selection

/-- Why a bootstrap defines nothing. -/
inductive BootstrapError where
  /-- Two bindings of one name have values that are not equivalent. -/
  | collision (name first second : String)
  | install (cause : InstallError)
deriving DecidableEq, Repr

/-- The wording of each error. -/
def BootstrapError.message : BootstrapError → String
  | collision name first second =>
    "`" ++ name ++ "` is bound by both library `" ++ first ++ "` and library `" ++ second ++ "`"
  | install cause => cause.message

/-- What a run defined: the names of the libraries, and how many different names they bind. -/
structure BootstrapReport where
  libraries : List String
  bindings : Nat
deriving DecidableEq, Repr

/-- The bindings that are ready to be defined, one for each name in the order in which names were
first seen, and for each name its place among them and the library that bound it first. -/
structure Staging where
  bindings : Array Binding := #[]
  seen : Std.TreeMap String (Nat × String) := {}
  /-- A name is seen at a place just when the binding at that place bears it. -/
  seen_iff : ∀ name place, (∃ origin, seen[name]? = some (place, origin)) ↔
    ∃ binding : Binding, bindings[place]? = some binding ∧ binding.name = name := by simp

namespace Staging

/-- Nothing is staged. -/
def empty : Staging := {}

theorem place_lt (staging : Staging) {name origin : String} {place : Nat}
    (known : staging.seen[name]? = some (place, origin)) : place < staging.bindings.size := by
  obtain ⟨_, placed, _⟩ := (staging.seen_iff name place).mp ⟨origin, known⟩
  exact (Array.getElem?_eq_some_iff.mp placed).1

private theorem seen_iff_push (staging : Staging) (origin : String) (binding : Binding)
    (unseen : staging.seen[binding.name]? = none) (name : String) (place : Nat) :
    (∃ first, (staging.seen.insert binding.name (staging.bindings.size, origin))[name]? =
        some (place, first)) ↔
      ∃ other : Binding, (staging.bindings.push binding)[place]? = some other ∧ other.name = name := by
  have old := staging.seen_iff name place
  rw [Std.TreeMap.getElem?_insert, Array.getElem?_push]
  by_cases last : place = staging.bindings.size
  · subst last
    rw [Array.getElem?_size] at old
    by_cases same : binding.name = name <;> simp_all
  · by_cases same : binding.name = name
    · subst same
      simp_all [Ne.symm last]
    · simpa [last, same] using old

/-- Stages a name that was not seen before. -/
def push (staging : Staging) (origin : String) (binding : Binding)
    (unseen : staging.seen[binding.name]? = none) : Staging where
  bindings := staging.bindings.push binding
  seen := staging.seen.insert binding.name (staging.bindings.size, origin)
  seen_iff := staging.seen_iff_push origin binding unseen

end Staging

namespace Bootstrap

/-- No library at all. -/
def empty : Bootstrap := ⟨[]⟩

/-- Whether a built-in library is selected. -/
def includes (bootstrap : Bootstrap) (kind : LibraryKind) : Bool :=
  bootstrap.selections.any (·.isBuiltin kind)

/-- Adds a built-in library, unless it is selected already. -/
def add (bootstrap : Bootstrap) (kind : LibraryKind) : Bootstrap :=
  if bootstrap.includes kind then bootstrap
  else ⟨bootstrap.selections ++ [.builtin kind]⟩

/-- Selects these built-in libraries in place of those selected so far; host libraries stay. -/
def only (bootstrap : Bootstrap) (kinds : List LibraryKind) : Bootstrap :=
  kinds.foldl add ⟨bootstrap.selections.filter (·.isHost)⟩

/-- Adds a host library. -/
def addHost (bootstrap : Bootstrap) (library : Library) : Bootstrap :=
  ⟨bootstrap.selections ++ [.host library]⟩

/-- Every built-in library. -/
def standard : Bootstrap :=
  empty.only LibraryKind.all

/-- The selected libraries, in order. -/
def libraries (bootstrap : Bootstrap) : List Library :=
  bootstrap.selections.map (·.library)

/-- The names of the selected libraries, in order. -/
def libraryNames (bootstrap : Bootstrap) : List String :=
  bootstrap.libraries.map (·.name)

/-- Stages one binding of the library named `origin`: a new name is added at the end, and a known
one must keep its value. -/
def stageBinding (origin : String) (staging : Staging) (binding : Binding) :
    Except BootstrapError Staging :=
  match known : staging.seen[binding.name]? with
  | some (place, first) =>
    have := staging.place_lt known
    if staging.bindings[place].value.eqv binding.value then .ok staging
    else .error (.collision binding.name first origin)
  | none => .ok (staging.push origin binding known)

/-- Stages a library: all its names first, then its bindings in order. -/
def stageLibrary (staging : Staging) (library : Library) : Except BootstrapError Staging := do
  library.checkNames.mapError .install
  library.bindings.foldlM (stageBinding library.name) staging

/-- The bindings to define, one for each name in the order in which names were first seen. -/
def stage (libraries : List Library) : Except BootstrapError Staging :=
  libraries.foldlM stageLibrary .empty

/-- Installs the selected libraries into a global environment. A bootstrap without libraries has
nothing to install and accepts any environment. -/
def run (bootstrap : Bootstrap) (e : FrameId) : StoreM BootstrapError BootstrapReport := do
  if let first :: _ := bootstrap.libraries then
    unless (← get).isGlobal e do
      throw (.install (.notGlobal first.name))
  let staging ← StoreM.ofExcept (stage bootstrap.libraries)
  (Store.defineAll e staging.bindings.toList).mapError fun cause => .install (.internFailed cause)
  return ⟨bootstrap.libraryNames, staging.bindings.size⟩

end Bootstrap

end SchemeBase
