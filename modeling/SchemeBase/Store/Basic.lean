import SchemeBase.EvalError

/-! # The store

All that changes while a program runs: the symbol tables, the frames of bindings, the tag that the
next table takes, and the number of the next allocation. Tables and frames are named by their
position and are never removed. Tags are bytes and start over after the last one.
-/

namespace SchemeBase

/-- The number of a symbol table. -/
abbrev TableId := Nat

/-- A frame of bindings: the table in which its chain interns, the enclosing frame if there is
one, and at most one value for each symbol. -/
structure Frame where
  table : TableId
  parent : Option FrameId
  bindings : Std.TreeMap Symbol Value

/-- The tables, the frames, and what the next table and the next allocation are given. -/
structure Store where
  tables : Array SymbolTable := #[]
  frames : Array Frame := #[]
  nextTag : UInt8 := 0
  nextIdentity : Identity := 0

/-- A step that may change the store and may fail. The store after a failure is part of the
outcome. -/
abbrev StoreM (ε α : Type) := ExceptT ε (StateM Store) α

namespace StoreM

variable {ε δ α β : Type} {store later : Store}

/-- Carries out a step under another type of errors. -/
def mapError (wrap : ε → δ) (step : StoreM ε α) : StoreM δ α :=
  ExceptT.adapt wrap step

/-- A step that can fail but leaves the store alone. -/
def ofExcept (result : Except ε α) : StoreM ε α :=
  fun store => (result, store)

theorem get_bind (next : Store → StoreM ε β) (store : Store) :
    (get >>= next) store = next store store := rfl

theorem bind_ok {step : StoreM ε α} {answer : α} (next : α → StoreM ε β)
    (run : step store = (.ok answer, later)) : (step >>= next) store = next answer later := by
  change (ExceptT.bindCont next (step store).1) (step store).2 = _
  rw [run]
  rfl

theorem bind_error {step : StoreM ε α} {error : ε} (next : α → StoreM ε β)
    (run : step store = (.error error, later)) : (step >>= next) store = (.error error, later) := by
  change (ExceptT.bindCont next (step store).1) (step store).2 = _
  rw [run]
  rfl

theorem mapError_ok {step : StoreM ε α} {answer : α} (wrap : ε → δ)
    (run : step store = (.ok answer, later)) : step.mapError wrap store = (.ok answer, later) := by
  change ((step store).1.mapError wrap, (step store).2) = _
  rw [run]
  rfl

theorem mapError_error {step : StoreM ε α} {error : ε} (wrap : ε → δ)
    (run : step store = (.error error, later)) :
    step.mapError wrap store = (.error (wrap error), later) := by
  change ((step store).1.mapError wrap, (step store).2) = _
  rw [run]
  rfl

end StoreM

namespace Store

/-- The table with a given number; a number that was never given out reads as a bare table. -/
def table (store : Store) (id : TableId) : SymbolTable :=
  store.tables[id]?.getD (.bare 0)

/-- Takes the next tag. -/
def drawTag : StateM Store UInt8 := fun store =>
  (store.nextTag, { store with nextTag := store.nextTag + 1 })

/-- Makes a symbol table under the next tag. -/
def createTable : StateM Store TableId := do
  let tag ← drawTag
  modifyGet fun store =>
    (store.tables.size, { store with tables := store.tables.push (.create tag) })

/-- Interns a spelling in a table. -/
def internIn (id : TableId) (spelling : String) : StoreM InternError Symbol := fun store =>
  let (result, table) := (store.table id).intern spelling
  (result, { store with tables := store.tables.setIfInBounds id table })

/-- Takes the numbers of the next `count` allocations and answers the first of them. -/
def allocate (count : Nat) : StateM Store Identity := fun store =>
  (store.nextIdentity, { store with nextIdentity := store.nextIdentity + count })

/-- Makes a string. -/
def newString (text : String) : StateM Store Value :=
  return .string (← allocate 1) text

/-- Makes a pair. -/
def newPair (car cdr : Value) : StateM Store Value :=
  return .pair (← allocate 1) car cdr

/-- Makes the chain of pairs with the given cars that ends in `tail`. -/
def newChain (items : List Value) (tail : Value) : StateM Store Value :=
  return .listFrom (← allocate items.length) items tail

/-- Makes a proper list. -/
def newList (items : List Value) : StateM Store Value :=
  newChain items .null

/-- Makes a user procedure. -/
def newLambda (code : Lambda) : StateM Store Value :=
  return .lambda (← allocate 1) code

/-- Makes a condition. -/
def newCondition (message : String) (irritants : List Value) : StateM Store Value :=
  return .condition (← allocate 1) message irritants

end Store

end SchemeBase
