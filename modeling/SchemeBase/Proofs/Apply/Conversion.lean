import SchemeBase.Proofs.Store.Tags

/-! # Strings and symbols

Three parties deal in symbols: built-ins that turn strings into symbols and back, environments that
intern names, and environments that look them up. Where they share a table they agree. A text has one
symbol, to each of them and for good: whatever else is interned, the conversions stay inverse to each
other, and the value of the symbol is the value of the name. A symbol that the table does not own is
refused.
-/

namespace SchemeBase

open Store

variable {σ : Type} {executor : Executor σ} {store later : Store} {e : FrameId} {text other : String}
  {symbol : Symbol} {allowed : TableId → String → Prop}

/-- The primitive that makes a symbol from a string. -/
abbrev stringToSymbol : Value := .primitive (.builtin (.symbol .ofText))

/-- The primitive that makes a string from a symbol. -/
abbrev symbolToString : Value := .primitive (.builtin (.symbol .toText))

namespace Executor

theorem apply_of_answer {builtin : Builtin} {args : List Value} {value : Value}
    (rule : builtin.step? executor.table args = some (.answer value)) (machine : Machine σ) :
    executor.apply (.primitive (.builtin builtin)) args machine = (.ok value, machine) :=
  apply_of_finish rule machine

/-- Converting a string does to the store what interning its text does. -/
theorem apply_stringToSymbol (executor : Executor σ) (identity : Identity) (text : String)
    (store : Store) (state : σ) :
    executor.apply stringToSymbol [.string identity text] ⟨store, state⟩ =
      (((internIn executor.table text store).1.map .symbol).mapError .internFailed,
        ⟨(internIn executor.table text store).2, state⟩) := by
  rw [apply_of_finish rfl, EvalM.ofStore, SymbolPrimitive.internText_eq]

/-- The spelling of a symbol is answered as a new string. -/
theorem apply_symbolToString (read : (store.table executor.table).resolve? symbol = some text)
    (state : σ) :
    executor.apply symbolToString [.symbol symbol] ⟨store, state⟩ =
      (.ok (.string store.nextIdentity text), ⟨(allocate 1 store).2, state⟩) := by
  rw [apply_of_finish rfl, EvalM.ofStore, SymbolPrimitive.spell, StoreM.get_bind, read]
  rfl

/-- In a store, a text and a symbol are each other's: to the environment, which interns and looks up,
and to the built-ins, which make the one from the other. -/
structure Names (executor : Executor σ) (e : FrameId) (text : String) (symbol : Symbol)
    (store : Store) : Prop where
  intern : Store.intern e text store = (.ok symbol, store)
  toSymbol : ∀ identity state,
    executor.apply stringToSymbol [.string identity text] ⟨store, state⟩ =
      (.ok (.symbol symbol), ⟨store, state⟩)
  toText : ∀ state,
    executor.apply symbolToString [.symbol symbol] ⟨store, state⟩ =
      (.ok (.string store.nextIdentity text), ⟨(allocate 1 store).2, state⟩)
  lookup : store.lookup e symbol = store.lookupNamed e text

theorem names_of_get? (shared : executor.table = (store.frame e).table)
    (valid : (store.tableOf e).WellFormed) (found : (store.tableOf e).get? text = some symbol) :
    executor.Names e text symbol store where
  intern := internIn_of_get? found
  toSymbol identity state := by
    have interned : internIn executor.table text store = (.ok symbol, store) :=
      internIn_of_get? (shared ▸ found)
    rw [apply_stringToSymbol, interned]
    rfl
  toText state := by
    have read := valid.get?_eq_some_iff.mp found
    exact apply_symbolToString (shared ▸ read) state
  lookup := by
    unfold lookupNamed
    rw [found]

/-- Growth takes nothing from a text that has a symbol. -/
theorem names_of_grown (shared : executor.table = (store.frame e).table) (valid : store.WellFormed)
    (found : (store.tableOf e).get? text = some symbol) (run : Grown allowed store later) :
    executor.Names e text symbol later := by
  refine names_of_get? ?_ ((run.gains.wellFormed valid).tableOf e)
    ((run.gains.extension_tableOf e).get? _ _ found)
  rw [run.gains.frame, shared]

theorem Names.get? (names : executor.Names e text symbol store) (ready : store.Ready e) :
    (store.tableOf e).get? text = some symbol := by
  have run : internIn (store.frame e).table text store = (.ok symbol, store) := names.intern
  have found := get?_of_internIn ready.table_lt (congrArg Prod.fst run)
  rwa [run] at found

end Executor

/-! ## Executors and environments over one table -/

namespace Executor

/-- How the conversions of an executor and an environment over its table agree, from a store on and
whatever is interned later. -/
structure Agrees (executor : Executor σ) (e : FrameId) (store : Store) : Prop where
  /-- Converting a string and interning its text are one operation. -/
  interning : ∀ text identity state,
    executor.apply stringToSymbol [.string identity text] ⟨store, state⟩ =
      (((Store.intern e text store).1.map .symbol).mapError .internFailed,
        ⟨(Store.intern e text store).2, state⟩)
  /-- It is refused only where the text is new and its shard is full. -/
  answered : ∀ text, (∃ symbol, (Store.intern e text store).1 = .ok symbol) ↔
    (store.tableOf e).HasRoom text
  /-- What it answers is the symbol of the text from then on. -/
  names : ∀ text symbol later, (Store.intern e text store).1 = .ok symbol →
    Grown anySpelling (Store.intern e text store).2 later → executor.Names e text symbol later
  /-- The symbol has the value that the name had, also where the name was new. -/
  value : (∀ f ∈ store.chain e, ∀ symbol, (store.local? f symbol).isSome →
      (store.tableOf e).owns symbol = true) →
    ∀ text symbol later, Grown anySpelling store later → executor.Names e text symbol later →
      later.lookup e symbol = store.lookupNamed e text
  /-- A symbol of the table becomes a string that becomes the symbol again. -/
  inverse : ∀ symbol later state, (store.tableOf e).owns symbol = true →
    Grown anySpelling store later → ∃ answer,
      executor.apply symbolToString [.symbol symbol] ⟨later, state⟩ =
        (.ok answer, ⟨(allocate 1 later).2, state⟩) ∧
      ∀ last lastState, Grown anySpelling (allocate 1 later).2 last →
        executor.apply stringToSymbol [answer] ⟨last, lastState⟩ =
          (.ok (.symbol symbol), ⟨last, lastState⟩)
  /-- Two strings are equal just when their symbols are the same. -/
  equality : ∀ first second x y later, Grown anySpelling store later →
    executor.Names e first x later → executor.Names e second y later → ∀ identity other machine,
      executor.apply (.primitive (.builtin (.boolean .equal)))
          [.string identity first, .string other second] machine =
        (.ok (.boolean (first == second)), machine) ∧
      executor.apply (.primitive (.builtin (.boolean .eq))) [.symbol x, .symbol y] machine =
        (.ok (.boolean (first == second)), machine)
  /-- A symbol that the table does not own is refused, and nothing happens. -/
  refusal : ∀ symbol state, (store.tableOf e).owns symbol = false →
    executor.apply symbolToString [.symbol symbol] ⟨store, state⟩ =
      (.error (.foreignSymbol "symbol->string" symbol), ⟨store, state⟩)

/-- An executor over the table of an environment agrees with it. -/
theorem agrees_of_shared (executor : Executor σ) (reachable : store.Reachable)
    (made : e < store.frames.size) (shared : executor.table = (store.frame e).table) :
    executor.Agrees e store := by
  have valid := reachable.wellFormed
  have ready := valid.ready made
  refine ⟨fun text identity state => ?_, fun text => ?_, fun text symbol later success run => ?_,
    fun binds text symbol later run names => ?_, fun symbol later state owned run => ?_,
    fun first second x y later run left right identity other machine => ?_,
    fun symbol state unowned => ?_⟩
  · rw [apply_stringToSymbol, shared]
    rfl
  · exact SymbolTable.exists_intern_iff
  · have interned : (Store.intern e text store).2.WellFormed := valid.internIn _ text
    have found : ((Store.intern e text store).2.tableOf e).get? text = some symbol :=
      get?_of_internIn ready.table_lt success
    have kept : executor.table = ((Store.intern e text store).2.frame e).table := shared
    exact names_of_grown kept interned found run
  · rw [names.lookup, run.gains.lookupNamed_eq valid binds]
  · obtain ⟨text, read⟩ := Option.isSome_iff_exists.mp owned
    have found := (valid.tableOf e).get?_eq_some_iff.mpr read
    have names {last : Store} (growth : Grown anySpelling store last) :
        executor.Names e text symbol last := names_of_grown shared valid found growth
    refine ⟨_, (names run).toText state, fun last lastState rest => ?_⟩
    have growth := (run.tail (.allocate later 1)).trans rest
    exact (names growth).toSymbol later.nextIdentity lastState
  · have validLater := run.gains.wellFormed valid
    have readyLater := validLater.ready (run.gains.frames ▸ made)
    have foundLeft := left.get? readyLater
    have foundRight := right.get? readyLater
    have same : (x == y) = (first == second) := by
      rw [Bool.eq_iff_iff, beq_iff_eq, beq_iff_eq]
      constructor
      · rintro rfl
        exact readyLater.valid.get?_inj foundLeft foundRight
      · rintro rfl
        exact Option.some.inj (foundLeft.symm.trans foundRight)
    have equal : (Value.string identity first).equal (.string other second) = (first == second) := by
      rw [Value.equal]
    refine ⟨apply_of_answer ?_ machine, apply_of_answer ?_ machine⟩
    · rw [← equal]
      rfl
    · rw [← same]
      rfl
  · refine apply_toText_of_unresolved executor state ?_
    rw [shared, ← Option.isNone_iff_eq_none]
    exact Option.isSome_eq_false_iff.mp unowned

/-- A text of a blank and a zero character keeps its symbol while another text is interned. The table
never issued a handle of tag 127. -/
theorem agrees_of_shared_blank :
    let executor : Executor Unit := .withoutEvaluator 0 fun _ _ => return .unspecified
    let store := (createGlobal {}).2
    let later := (internIn 0 "λ" (Store.intern 0 " \u0000" store).2).2
    let blank := Symbol.ofParts 0 0 2
    let foreign := Symbol.ofParts 127 0 0
    store.Reachable ∧ 0 < store.frames.size ∧ executor.table = (store.frame 0).table ∧
      executor.apply stringToSymbol [.string 7 " \u0000"] ⟨later, ()⟩ =
        (.ok (.symbol blank), ⟨later, ()⟩) ∧
      executor.apply symbolToString [.symbol blank] ⟨later, ()⟩ =
        (.ok (.string later.nextIdentity " \u0000"), ⟨(allocate 1 later).2, ()⟩) ∧
      executor.apply symbolToString [.symbol foreign] ⟨store, ()⟩ =
        (.error (.foreignSymbol "symbol->string" foreign), ⟨store, ()⟩) := by
  intro executor store later blank foreign
  have reachable : store.Reachable := Reachable.createGlobal .refl
  have made : 0 < store.frames.size := by decide +kernel
  have agrees : executor.Agrees 0 store := executor.agrees_of_shared reachable made rfl
  have success : (Store.intern 0 " \u0000" store).1 = .ok blank := by decide +kernel
  have names := agrees.names " \u0000" blank later success (.single (.intern trivial))
  exact ⟨reachable, made, rfl, names.toSymbol 7 (), names.toText (),
    agrees.refusal foreign () (by decide +kernel)⟩

end Executor

end SchemeBase
