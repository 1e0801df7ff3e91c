import SchemeBase.Proofs.Store.Growth
import SchemeBase.Proofs.Store.Lookup
import SchemeBase.Proofs.Store.Outward

/-! # Environments that bind symbols of their own table

Nothing keeps a program from binding a symbol in an environment of another table. Where that does not
happen, names and symbols are as good as each other: a name that the table does not know has no value,
and it gets none by being interned, since the symbol it is given was bound nowhere. So a lookup by name
needs no interning, and interning changes no answer. Definitions by name, and all work with symbols that
the table issued, keep an environment in this condition.
-/

namespace SchemeBase.Store

variable {allowed : TableId → String → Prop} {store later : Store} {e f : FrameId} {id : TableId}
  {symbol : Symbol} {name : String}

/-- The frames of an environment bind no symbols but those of its table. -/
def BindsOwned (store : Store) (e : FrameId) : Prop :=
  ∀ f ∈ store.chain e, ∀ symbol, (store.local? f symbol).isSome →
    (store.tableOf e).owns symbol = true

/-! ## Lookups -/

theorem lookup?_of_unresolved (unread : (store.tableOf e).resolve? symbol = none)
    (binds : store.BindsOwned e) : store.lookup? e symbol = none := by
  rw [lookup?, List.findSome?_eq_none_iff]
  intro f inside
  by_contra bound
  have owned := binds f inside symbol (Option.isSome_iff_ne_none.mpr bound)
  rw [SymbolTable.owns, unread] at owned
  cases owned

theorem lookup_of_unresolved (unread : (store.tableOf e).resolve? symbol = none)
    (binds : store.BindsOwned e) :
    store.lookup e symbol = .error (.unboundVariable symbol.placeholder) := by
  rw [lookup, lookup?_of_unresolved unread binds, unbound,
    SymbolTable.spelling_of_unresolved unread]

namespace Gains

variable (gains : Gains allowed store later)

include gains

/-- Growth changes the value of no name. A symbol that another table issued could become the symbol of
a new name, but none is bound. -/
theorem lookupNamed_eq (valid : store.WellFormed) (binds : store.BindsOwned e) (name : String) :
    later.lookupNamed e name = store.lookupNamed e name := by
  have before := valid.tableOf e
  have after := (gains.wellFormed valid).tableOf e
  have growth := gains.extension_tableOf e
  have same : ((later.tableOf e).get? name).bind (later.lookup? e) =
      ((store.tableOf e).get? name).bind (store.lookup? e) := by
    cases found : (store.tableOf e).get? name with
    | some symbol => rw [growth.get? _ _ found, Option.bind_some, Option.bind_some, gains.lookup?]
    | none =>
      cases new : (later.tableOf e).get? name with
      | none => rfl
      | some symbol =>
        -- The symbol is a new one, so no frame of the environment binds it.
        have unread := growth.resolve?_eq_none before after found new
        rw [Option.bind_some, gains.lookup?, lookup?_of_unresolved unread binds, Option.bind_none]
  rw [Store.lookupNamed_eq after, Store.lookupNamed_eq before, same]

/-- Growth changes the lookup of no symbol that the table owns, the error of a failing one included. -/
theorem lookup_eq (valid : store.WellFormed) (owned : (store.tableOf e).owns symbol = true) :
    later.lookup e symbol = store.lookup e symbol := by
  obtain ⟨spelling, read⟩ := Option.isSome_iff_exists.mp owned
  have kept := (gains.extension_tableOf e).resolve? (valid.tableOf e)
    ((gains.wellFormed valid).tableOf e) read
  rw [lookup, lookup, gains.lookup?, unbound, unbound, SymbolTable.spelling_of_resolve? kept,
    SymbolTable.spelling_of_resolve? read]

theorem isBound_eq (e : FrameId) (symbol : Symbol) :
    later.isBound e symbol = store.isBound e symbol := by
  rw [isBound, gains.lookup?, isBound]

theorem capture_eq (e : FrameId) : later.capture e = store.capture e := by
  simp only [capture, gains.chain, gains.frame]

end Gains

/-- Interning a name and looking its symbol up answers what a lookup of the name does. -/
theorem lookupNamed_eq_lookup (valid : store.WellFormed) (made : e < store.frames.size)
    (binds : store.BindsOwned e) (interned : intern e name store = (.ok symbol, later)) :
    store.lookupNamed e name = later.lookup e symbol := by
  have gains : Gains anySpelling store (intern e name store).2 := .internIn trivial
  have success : (intern e name store).1 = .ok symbol := by rw [interned]
  have found : ((intern e name store).2.tableOf e).get? name = some symbol :=
    get?_of_internIn (valid.ready made).table_lt success
  rw [← gains.lookupNamed_eq valid binds, lookupNamed, found, interned]

/-! ## Operations -/

/-- All frames of an environment intern in one table. -/
theorem WellFormed.table_eq_of_mem_chain (valid : store.WellFormed) (e : FrameId) :
    ∀ f ∈ store.chain e, (store.frame f).table = (store.frame e).table := by
  induction e using valid.outward_induction with
  | outermost e last =>
    rw [chain_of_outermost last]
    exact List.forall_mem_singleton.mpr rfl
  | inside e outer encloses ih =>
    rw [valid.chain_of_parent encloses]
    refine List.forall_mem_cons.mpr ⟨rfl, fun f member => ?_⟩
    rw [ih f member, (valid.enclosing encloses).2]

namespace BindsOwned

/-- Symbols of the table may be bound in the frames of the environment, and any in other frames. -/
theorem define (binds : store.BindsOwned e) (made : f < store.frames.size)
    (owned : f ∈ store.chain e → (store.tableOf e).owns symbol = true) (value : Value) :
    (store.define f symbol value).BindsOwned e := by
  have same : (store.define f symbol value).tableOf e = store.tableOf e := by
    rw [tableOf, (frame_define_shape made symbol value e).2]
    rfl
  intro g inside other bound
  rw [chain_define made] at inside
  rw [local?_define made] at bound
  rw [same]
  split at bound
  · next here =>
    obtain ⟨rfl, rfl⟩ := here
    exact owned inside
  · exact binds g inside other bound

/-- An assignment binds no symbol that was not bound before. -/
theorem assign (binds : store.BindsOwned e) (f : FrameId) (symbol : Symbol) (value : Value) :
    (assign f symbol value store).2.BindsOwned e := by
  obtain ⟨g, _, nearest, _, run⟩ | ⟨_, run⟩ := store.assign_cases f symbol value
  · rw [run]
    exact binds.define (lt_size_of_local? nearest.2) (fun inside => binds g inside symbol nearest.2) value
  · rw [run]
    exact binds

/-- Tables may grow while the frames of the environment stay as they are. -/
theorem of_extends (binds : store.BindsOwned e) (valid : store.WellFormed) (after : later.WellFormed)
    (frames : ∀ f ≤ e, later.frame f = store.frame f)
    (growth : (store.tableOf e).Extends (later.tableOf e)) : later.BindsOwned e := by
  have same : later.chain e = store.chain e := chain_congr fun f below => by rw [frames f below]
  intro f inside symbol bound
  rw [same] at inside
  rw [local?, frames f (valid.le_of_mem_chain e f inside)] at bound
  obtain ⟨spelling, read⟩ := Option.isSome_iff_exists.mp (binds f inside symbol bound)
  rw [SymbolTable.owns, growth.resolve? (valid.tableOf e) (after.tableOf e) read]
  rfl

theorem of_gains (binds : store.BindsOwned e) (valid : store.WellFormed)
    (gains : Gains allowed store later) : later.BindsOwned e :=
  binds.of_extends valid (gains.wellFormed valid) (fun f _ => gains.frame f)
    (gains.extension_tableOf e)

/-- A definition by name binds a symbol that the table of its frame issued. -/
theorem defineNamed (binds : store.BindsOwned e) (valid : store.WellFormed)
    (made : f < store.frames.size) (name : String) (value : Value) :
    (defineNamed f name value store).2.BindsOwned e := by
  have gains : Gains anySpelling store (intern f name store).2 := .internIn trivial
  have kept := binds.of_gains valid gains
  have after := gains.wellFormed valid
  cases answer : (store.tableOf f).intern name with
  | mk result table =>
    have interned : (intern f name store).2 = store.withTable f table := by rw [intern_eq, answer]
    rw [interned] at kept after
    cases result with
    | error cause =>
      rw [defineNamed_of_error answer]
      exact kept
    | ok symbol =>
      rw [defineNamed_of_ok answer]
      refine kept.define made (fun inside => ?_) value
      -- In a frame of the environment the name was interned in the table of the environment.
      have shared := after.table_eq_of_mem_chain e f inside
      have ready := valid.ready made
      have found : (table.get? name) = some symbol := by
        rw [SymbolTable.get?_of_intern answer, if_pos rfl]
      have here : (store.withTable f table).tableOf e = table := by
        rw [tableOf, ← shared]
        exact tableOf_withTable ready.table_lt table
      have validTable : table.WellFormed := here ▸ after.tableOf e
      rw [here, SymbolTable.owns, validTable.get?_eq_some_iff.mp found]
      rfl

/-- A new top level binds nothing. -/
theorem globalIn (id : TableId) (store : Store) :
    (globalIn id store).2.BindsOwned (globalIn id store).1 := by
  have outermost := frame_pushFrame_self ⟨id, none, {}⟩ store
  change BindsOwned (pushFrame ⟨id, none, {}⟩ store).2 store.frames.size
  intro f inside symbol bound
  rw [chain_of_outermost (by rw [outermost])] at inside
  cases List.mem_singleton.mp inside
  rw [local?, outermost] at bound
  cases bound

/-- Inside an environment a new frame binds what the environment does. -/
theorem child (binds : store.BindsOwned e) (valid : store.WellFormed)
    (made : e < store.frames.size) : (child e store).2.BindsOwned (child e store).1 := by
  let later := (Store.child e store).2
  have innermost : later.frame store.frames.size = ⟨(store.frame e).table, some e, {}⟩ :=
    frame_pushFrame_self _ store
  have around (f : FrameId) (below : f ≤ e) : later.frame f = store.frame f :=
    frame_pushFrame_of_lt (Nat.lt_of_le_of_lt below made) _
  have after : later.WellFormed := valid.change (.child made)
  have sameTable : later.tableOf e = store.tableOf e := by
    rw [tableOf, around e (Nat.le_refl e)]
    rfl
  have outer : later.BindsOwned e :=
    binds.of_extends valid after around (by rw [sameTable]; exact .refl _)
  have shared : later.tableOf store.frames.size = later.tableOf e := by
    rw [tableOf, innermost, tableOf, around e (Nat.le_refl e)]
  change later.BindsOwned store.frames.size
  intro f inside symbol bound
  rw [after.chain_of_parent (congrArg Frame.parent innermost)] at inside
  rcases List.mem_cons.mp inside with rfl | inside
  · rw [local?, innermost] at bound
    cases bound
  · rw [shared]
    exact outer f inside symbol bound

end BindsOwned

/-- One operation on a store that binds no symbol in the environment `e` but those of its table. -/
inductive OwnStep (e : FrameId) : Store → Store → Prop
  | define {store : Store} {f : FrameId} {symbol : Symbol} (made : f < store.frames.size)
      (owned : f ∈ store.chain e → (store.tableOf e).owns symbol = true) (value : Value) :
      OwnStep e store (store.define f symbol value)
  | assign (store : Store) (f : FrameId) (symbol : Symbol) (value : Value) :
      OwnStep e store (assign f symbol value store).2
  | defineNamed {store : Store} {f : FrameId} (made : f < store.frames.size) (name : String)
      (value : Value) : OwnStep e store (defineNamed f name value store).2
  | other {store later : Store} (change : Change store later)
      (frames : ∀ f < store.frames.size, later.frame f = store.frame f) : OwnStep e store later

/-- Any number of such operations, one after another. -/
abbrev OwnSteps (e : FrameId) : Store → Store → Prop := Relation.ReflTransGen (OwnStep e)

theorem OwnStep.changes (step : OwnStep e store later) (valid : store.WellFormed) :
    Changes store later := by
  cases step with
  | define made _ value => exact .single (.define made _ value)
  | assign f symbol value => exact store.changes_assign f symbol value
  | defineNamed made name value => exact changes_defineNamed (valid.ready made) name value
  | other change => exact .single change

theorem OwnStep.bindsOwned (step : OwnStep e store later) (valid : store.WellFormed)
    (made : e < store.frames.size) (binds : store.BindsOwned e) : later.BindsOwned e := by
  cases step with
  | define made owned value => exact binds.define made owned value
  | assign f symbol value => exact binds.assign f symbol value
  | defineNamed made name value => exact binds.defineNamed valid made name value
  | other change frames =>
    refine binds.of_extends valid (valid.change change)
      (fun f below => frames f (Nat.lt_of_le_of_lt below made)) ?_
    rw [tableOf, tableOf, frames e made]
    exact change.extends_table (valid.ready made).table_lt

theorem OwnSteps.bindsOwned (run : OwnSteps e store later) (valid : store.WellFormed)
    (made : e < store.frames.size) (binds : store.BindsOwned e) :
    later.WellFormed ∧ e < later.frames.size ∧ later.BindsOwned e := by
  induction run with
  | refl => exact ⟨valid, made, binds⟩
  | tail _ step ih =>
    obtain ⟨valid, made, binds⟩ := ih
    have changes := step.changes valid
    exact ⟨valid.changes changes, Nat.lt_of_lt_of_le made (Keeps.changes changes).size_le,
      step.bindsOwned valid made binds⟩

/-! ## Names instead of symbols -/

/-- In an environment that binds only symbols of its table, a lookup by name gives what interning the
name and looking its symbol up gives. It only reads the store, while interning a new name makes the table
larger by one. Nothing that is interned later changes the value of a name or the collection of all
bindings, and neither does it change what is answered for a symbol that the table owns. Environments
are made in this condition, and stay in it while symbols of their table are bound. -/
theorem Reachable.lookupNamed_interned (reachable : store.Reachable) (made : e < store.frames.size)
    (binds : store.BindsOwned e) :
    (∀ name,
      (∀ symbol later, intern e name store = (.ok symbol, later) →
        store.lookupNamed e name = later.lookup e symbol ∧
        (later.tableOf e).size =
          (store.tableOf e).size + if ((store.tableOf e).get? name).isSome then 0 else 1) ∧
      (∀ cause later, intern e name store = (.error cause, later) →
        store.lookupNamed e name = .error (.unboundVariable name)) ∧
      ((∃ value, store.lookupNamed e name = .ok value) ∨
        store.lookupNamed e name = .error (.unboundVariable name))) ∧
    (∀ later, Grown anySpelling store later →
      later.capture e = store.capture e ∧
      (∀ symbol, later.isBound e symbol = store.isBound e symbol) ∧
      (∀ name, later.lookupNamed e name = store.lookupNamed e name) ∧
      ∀ symbol, (store.tableOf e).owns symbol = true →
        later.lookup e symbol = store.lookup e symbol) ∧
    (∀ later, OwnSteps e store later → later.BindsOwned e) ∧
    (child e store).2.BindsOwned (child e store).1 ∧
    ∀ id, (globalIn id store).2.BindsOwned (globalIn id store).1 := by
  have valid := reachable.wellFormed
  have ready := valid.ready made
  refine ⟨fun name => ⟨fun symbol later interned => ⟨?_, ?_⟩, fun cause later refused => ?_, ?_⟩,
    fun later run => ?_, fun later run => (run.bindsOwned valid made binds).2.2,
    binds.child valid made, fun id => .globalIn id store⟩
  · exact lookupNamed_eq_lookup valid made binds interned
  · rw [intern_eq] at interned
    cases answer : (store.tableOf e).intern name with
    | mk result table =>
      rw [answer] at interned
      cases interned
      rw [tableOf_withTable ready.table_lt, SymbolTable.size_of_intern answer]
  · rw [intern_eq] at refused
    have failure : ((store.tableOf e).intern name).1 = .error cause := congrArg Prod.fst refused
    obtain ⟨_, _, run⟩ | ⟨_, _, run⟩ | ⟨unknown, _, _⟩ := (store.tableOf e).intern_cases name
    · rw [run] at failure
      cases failure
    · rw [run] at failure
      cases failure
    · rw [lookupNamed, unknown]
  · rw [lookupNamed_eq ready.valid]
    cases ((store.tableOf e).get? name).bind (store.lookup? e) with
    | none => exact .inr rfl
    | some value => exact .inl ⟨value, rfl⟩
  · have gains := run.gains
    exact ⟨gains.capture_eq e, gains.isBound_eq e, gains.lookupNamed_eq valid binds,
      fun symbol owned => gains.lookup_eq valid owned⟩

/-- The name of a constant is found from the inner of two frames, also after a new name has been interned
there. The new name has no value, and its symbol was unknown to the table before. -/
theorem lookupNamed_interned_new :
    let top := (createGlobal {}).2
    let nested := (child 0 top).2
    let store := (defineNamed 0 "limit" (.integer 7) nested).2
    let later := (intern 1 "step" store).2
    let step : Symbol := .ofParts 0 12 1
    store.Reachable ∧ 1 < store.frames.size ∧ store.BindsOwned 1 ∧
      intern 1 "step" store = (.ok step, later) ∧
      store.lookupNamed 1 "step" = later.lookup 1 step ∧
      later.lookupNamed 1 "step" = .error (.unboundVariable "step") ∧
      later.lookupNamed 1 "limit" = store.lookupNamed 1 "limit" ∧
      later.capture 1 = store.capture 1 ∧ (store.tableOf 1).owns step = false := by
  intro top nested store later step
  have topReachable : top.Reachable := Reachable.createGlobal .refl
  have nestedReachable : nested.Reachable := topReachable.tail (.child (by decide))
  have nestedValid := nestedReachable.wellFormed
  have inside : 0 < nested.frames.size := by decide
  have reachable : store.Reachable :=
    nestedReachable.trans (changes_defineNamed (nestedValid.ready inside) "limit" _)
  have empty : nested.BindsOwned 1 :=
    (BindsOwned.globalIn 0 (createTable {}).2).child topReachable.wellFormed (by decide)
  have binds : store.BindsOwned 1 := empty.defineNamed nestedValid inside "limit" _
  have made : 1 < store.frames.size := by decide +kernel
  have answer : (intern 1 "step" store).1 = .ok step := by decide +kernel
  have unknown : (store.tableOf 1).get? "step" = none := by decide +kernel
  have unowned : (store.tableOf 1).owns step = false := by decide +kernel
  -- From here on nothing of the store matters but these facts.
  clear_value store
  have interned : intern 1 "step" store = (.ok step, later) := Prod.ext answer rfl
  obtain ⟨names, grown, _⟩ := reachable.lookupNamed_interned made binds
  obtain ⟨captured, _, kept, _⟩ := grown later (.single (.intern trivial))
  refine ⟨reachable, made, binds, interned, ((names "step").1 step later interned).1, ?_,
    kept "limit", captured, unowned⟩
  rw [kept "step", lookupNamed, unknown]

end SchemeBase.Store
