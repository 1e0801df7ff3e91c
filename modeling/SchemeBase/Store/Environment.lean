import SchemeBase.Store.Basic
import SchemeBase.Value.Equality

/-! # Environments

A frame together with the frames that enclose it is an environment, named by its innermost frame.
A definition goes to that frame and cannot fail; an assignment goes to the nearest frame that
already binds the symbol, and fails where there is none. Frames are shared by all environments that
pass through them.
-/

namespace SchemeBase.Store

/-- The frame with a given number; a number that was never given out reads as an empty frame. -/
def frame (store : Store) (e : FrameId) : Frame :=
  store.frames[e]?.getD ⟨0, none, {}⟩

/-- The symbol table in which an environment interns. -/
def tableOf (store : Store) (e : FrameId) : SymbolTable :=
  store.table (store.frame e).table

/-- The value a frame itself gives a symbol. -/
def local? (store : Store) (e : FrameId) (symbol : Symbol) : Option Value :=
  (store.frame e).bindings[symbol]?

/-- Adds a frame. -/
def pushFrame (frame : Frame) : StateM Store FrameId := fun store =>
  (store.frames.size, { store with frames := store.frames.push frame })

/-- Makes an empty global environment that interns in a given table. -/
def globalIn (table : TableId) : StateM Store FrameId :=
  pushFrame ⟨table, none, {}⟩

/-- Makes an empty global environment with a table of its own. -/
def createGlobal : StateM Store FrameId := do
  globalIn (← createTable)

/-- Makes an empty frame inside an environment. It interns where that environment does. -/
def child (e : FrameId) : StateM Store FrameId := do
  let store ← get
  pushFrame ⟨(store.frame e).table, some e, {}⟩

/-- Whether a frame is a top level. -/
def isGlobal (store : Store) (e : FrameId) : Bool :=
  (store.frame e).parent.isNone

/-- The frames of an environment from the inside out. A frame encloses only frames made after it,
which bounds the chain. -/
def chain (store : Store) (e : FrameId) : List FrameId :=
  e ::
    match (store.frame e).parent with
    | some parent => if parent < e then store.chain parent else []
    | none => []
termination_by e

/-- The number of frames of an environment. -/
def depth (store : Store) (e : FrameId) : Nat :=
  (store.chain e).length

/-- The value of the nearest binding of a symbol. -/
def lookup? (store : Store) (e : FrameId) (symbol : Symbol) : Option Value :=
  (store.chain e).findSome? (store.local? · symbol)

/-- The error for a symbol without a binding, by its spelling in the environment's table. -/
def unbound (store : Store) (e : FrameId) (symbol : Symbol) : EvalError :=
  .unboundVariable ((store.tableOf e).spelling symbol)

/-- The value of a symbol, or the error that it has none. -/
def lookup (store : Store) (e : FrameId) (symbol : Symbol) : Except EvalError Value :=
  match store.lookup? e symbol with
  | some value => .ok value
  | none => .error (store.unbound e symbol)

/-- The value of a name. A name that was never interned is not bound, and asking for it does not
intern it. -/
def lookupNamed (store : Store) (e : FrameId) (name : String) : Except EvalError Value :=
  match (store.tableOf e).get? name with
  | some symbol => store.lookup e symbol
  | none => .error (.unboundVariable name)

/-- Whether some frame of the environment binds a symbol. -/
def isBound (store : Store) (e : FrameId) (symbol : Symbol) : Bool :=
  (store.lookup? e symbol).isSome

/-- Whether the innermost frame binds a symbol. -/
def isBoundLocally (store : Store) (e : FrameId) (symbol : Symbol) : Bool :=
  (store.frame e).bindings.contains symbol

/-- Binds a symbol in the innermost frame, in place of any binding it has there. -/
def define (store : Store) (e : FrameId) (symbol : Symbol) (value : Value) : Store :=
  { store with
    frames := store.frames.modify e fun frame =>
      { frame with bindings := frame.bindings.insert symbol value } }

/-- The nearest frame that binds a symbol. -/
def binder? (store : Store) (e : FrameId) (symbol : Symbol) : Option FrameId :=
  (store.chain e).find? (store.isBoundLocally · symbol)

/-- Replaces the nearest binding of a symbol. -/
def assign (e : FrameId) (symbol : Symbol) (value : Value) : StoreM EvalError Unit := fun store =>
  match store.binder? e symbol with
  | some binder => (.ok (), store.define binder symbol value)
  | none => (.error (store.unbound e symbol), store)

/-- Interns a spelling in the table of an environment. -/
def intern (e : FrameId) (spelling : String) : StoreM InternError Symbol := do
  let store ← get
  internIn (store.frame e).table spelling

/-- Binds a name in the innermost frame and answers its symbol. -/
def defineNamed (e : FrameId) (name : String) (value : Value) : StoreM InternError Symbol := do
  let symbol ← intern e name
  modify (·.define e symbol value)
  return symbol

/-- The symbols of the innermost frame in ascending order. -/
def localSymbols (store : Store) (e : FrameId) : List Symbol :=
  (store.frame e).bindings.keys

/-- The number of bindings of the innermost frame. -/
def localSize (store : Store) (e : FrameId) : Nat :=
  (store.frame e).bindings.size

/-- Every visible binding, the nearest frame winning. -/
def capture (store : Store) (e : FrameId) : Std.TreeMap Symbol Value :=
  (store.chain e).foldr (fun f outer => outer ∪ (store.frame f).bindings) {}

/-- The number of symbols to which two sets of bindings give equivalent values. -/
def agreement (a b : Std.TreeMap Symbol Value) : Nat :=
  a.toList.countP fun (symbol, value) => b[symbol]?.any value.eqv

/-- The environment as a diagnostic shows it. -/
def environmentDiagnostic (store : Store) (e : FrameId) : String :=
  Text.record "Environment"
    [("depth", toString (store.depth e)), ("bindings", toString (store.localSize e))] true

end SchemeBase.Store
