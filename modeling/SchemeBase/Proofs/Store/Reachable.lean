import Mathlib.Logic.Relation
import SchemeBase.Proofs.Symbol.WellFormed
import SchemeBase.Store.Environment

/-! # Reachable stores

A store changes in few ways: a tag is drawn, a table or a frame is made, a spelling is interned, a
symbol is bound, or numbers of allocations are taken. Tables and frames are used only after they
were made. Every other operation is a run of such changes, and every store that they lead to from
the empty one is well-formed: its tables are, every frame interns in one of them, and a frame lies
inside an earlier one that interns in the same table.
-/

namespace SchemeBase.Store

variable {store later : Store} {e : FrameId} {id : TableId}

/-- One change of a store. -/
inductive Change : Store → Store → Prop
  | drawTag (store : Store) : Change store (drawTag store).2
  | createTable (store : Store) : Change store (createTable store).2
  | intern {store : Store} {id : TableId} (made : id < store.tables.size) (spelling : String) :
      Change store (internIn id spelling store).2
  | allocate (store : Store) (count : Nat) : Change store (allocate count store).2
  | globalIn {store : Store} {id : TableId} (made : id < store.tables.size) :
      Change store (globalIn id store).2
  | child {store : Store} {e : FrameId} (made : e < store.frames.size) :
      Change store (child e store).2
  | define {store : Store} {e : FrameId} (made : e < store.frames.size) (symbol : Symbol)
      (value : Value) : Change store (store.define e symbol value)

/-- Any number of changes, one after another. -/
abbrev Changes : Store → Store → Prop := Relation.ReflTransGen Change

/-- A store that changes lead to from the empty one. -/
def Reachable (store : Store) : Prop := Changes {} store

/-- The invariant of all reachable stores. -/
structure WellFormed (store : Store) : Prop where
  tables : ∀ table ∈ store.tables, table.WellFormed
  table_lt : ∀ (e : FrameId) (frame : Frame), store.frames[e]? = some frame →
    frame.table < store.tables.size
  parent : ∀ (e : FrameId) (frame : Frame) (outer : FrameId), store.frames[e]? = some frame →
    frame.parent = some outer → outer < e ∧
      ∃ enclosing, store.frames[outer]? = some enclosing ∧ enclosing.table = frame.table

/-! ## Reading a changed store -/

theorem getElem?_frames_define (store : Store) (e f : FrameId) (symbol : Symbol) (value : Value) :
    (store.define e symbol value).frames[f]? =
      if e = f then store.frames[f]?.map fun frame =>
        { frame with bindings := frame.bindings.insert symbol value }
      else store.frames[f]? :=
  Array.getElem?_modify

theorem internIn_eq (id : TableId) (spelling : String) (store : Store) :
    internIn id spelling store =
      (((store.table id).intern spelling).1,
        { store with
          tables := store.tables.setIfInBounds id ((store.table id).intern spelling).2 }) := rfl

theorem createTable_eq (store : Store) :
    createTable store =
      (store.tables.size,
        { store with
          tables := store.tables.push (.create store.nextTag)
          nextTag := store.nextTag + 1 }) := rfl

theorem frame_eq (made : e < store.frames.size) : store.frame e = store.frames[e] := by
  rw [frame, Array.getElem?_eq_getElem made, Option.getD_some]

theorem chain_of_outermost (last : (store.frame e).parent = none) : store.chain e = [e] := by
  rw [chain, last]

/-- The chain of a frame depends on nothing but the parents of the frames that were made before it. -/
theorem chain_congr (same : ∀ f ≤ e, (later.frame f).parent = (store.frame f).parent) :
    later.chain e = store.chain e := by
  induction e using Nat.strongRecOn with
  | ind e ih =>
    rw [chain, chain, same e (Nat.le_refl e)]
    cases (store.frame e).parent with
    | none => rfl
    | some outer =>
      by_cases inside : outer < e
      · have rest := ih outer inside fun f below =>
          same f (Nat.le_trans below (Nat.le_of_lt inside))
        simp only [if_pos inside, rest]
      · simp only [if_neg inside]

namespace WellFormed

theorem table (valid : store.WellFormed) (id : TableId) : (store.table id).WellFormed := by
  unfold Store.table
  cases present : store.tables[id]? with
  | none => exact SymbolTable.bare_wellFormed 0
  | some table => exact valid.tables table (Array.mem_of_getElem? present)

theorem tableOf (valid : store.WellFormed) (e : FrameId) : (store.tableOf e).WellFormed :=
  valid.table _

/-! ## Changes keep a store well-formed -/

theorem empty : WellFormed {} where
  tables table member := by cases (Array.not_mem_empty table) member
  table_lt e frame present := by simp at present
  parent e frame outer present := by simp at present

theorem createTable (valid : store.WellFormed) : (createTable store).2.WellFormed where
  tables table member := by
    rw [createTable_eq] at member
    rcases Array.mem_push.mp member with member | new
    · exact valid.tables table member
    · rw [new]
      exact SymbolTable.create_wellFormed _
  table_lt e frame present := by
    rw [createTable_eq] at present ⊢
    rw [Array.size_push]
    exact Nat.lt_succ_of_lt (valid.table_lt e frame present)
  parent := by
    rw [createTable_eq]
    exact valid.parent

theorem internIn (valid : store.WellFormed) (id : TableId) (spelling : String) :
    (internIn id spelling store).2.WellFormed where
  tables table member := by
    rcases Array.mem_or_eq_of_mem_setIfInBounds member with member | rfl
    · exact valid.tables table member
    · exact (valid.table id).intern spelling
  table_lt e frame present := by
    have made := valid.table_lt e frame present
    rwa [internIn_eq, Array.size_setIfInBounds]
  parent := valid.parent

/-- A frame is made in a table that exists, and inside a frame that interns there. -/
theorem pushFrame (valid : store.WellFormed) {frame : Frame}
    (made : frame.table < store.tables.size)
    (inside : ∀ outer, frame.parent = some outer →
      ∃ enclosing, store.frames[outer]? = some enclosing ∧ enclosing.table = frame.table) :
    (pushFrame frame store).2.WellFormed where
  tables := valid.tables
  table_lt e other present := by
    change (store.frames.push frame)[e]? = some other at present
    rw [Array.getElem?_push] at present
    split at present
    · cases present
      exact made
    · exact valid.table_lt e other present
  parent e other outer present encloses := by
    change (store.frames.push frame)[e]? = some other at present
    have kept (enclosing : Frame) (found : store.frames[outer]? = some enclosing) :
        (store.frames.push frame)[outer]? = some enclosing := by
      have bound := (Array.getElem?_eq_some_iff.mp found).1
      rw [Array.getElem?_push, if_neg (Nat.ne_of_lt bound), found]
    rw [Array.getElem?_push] at present
    split at present
    · next last =>
      cases present
      obtain ⟨enclosing, found, same⟩ := inside outer encloses
      have bound := (Array.getElem?_eq_some_iff.mp found).1
      exact ⟨last ▸ bound, enclosing, kept enclosing found, same⟩
    · obtain ⟨before, enclosing, found, same⟩ := valid.parent e other outer present encloses
      exact ⟨before, enclosing, kept enclosing found, same⟩

theorem define (valid : store.WellFormed) (e : FrameId) (symbol : Symbol) (value : Value) :
    (store.define e symbol value).WellFormed := by
  -- A definition changes neither the table nor the parent of any frame.
  have shape (f : FrameId) (frame : Frame)
      (present : (store.define e symbol value).frames[f]? = some frame) :
      ∃ old, store.frames[f]? = some old ∧ old.table = frame.table ∧ old.parent = frame.parent := by
    rw [getElem?_frames_define] at present
    split at present
    · obtain ⟨old, found, rfl⟩ := Option.map_eq_some_iff.mp present
      exact ⟨old, found, rfl, rfl⟩
    · exact ⟨frame, present, rfl, rfl⟩
  have kept (f : FrameId) (old : Frame) (found : store.frames[f]? = some old) :
      ∃ frame, (store.define e symbol value).frames[f]? = some frame ∧ frame.table = old.table := by
    rw [getElem?_frames_define, found]
    split
    · exact ⟨_, rfl, rfl⟩
    · exact ⟨old, rfl, rfl⟩
  constructor
  · exact valid.tables
  · intro f frame present
    obtain ⟨old, found, same, _⟩ := shape f frame present
    exact same ▸ valid.table_lt f old found
  · intro f frame outer present encloses
    obtain ⟨old, found, sameTable, sameParent⟩ := shape f frame present
    obtain ⟨before, enclosing, outerFound, outerTable⟩ :=
      valid.parent f old outer found (sameParent.trans encloses)
    obtain ⟨now, nowFound, nowTable⟩ := kept outer enclosing outerFound
    exact ⟨before, now, nowFound, nowTable.trans (outerTable.trans sameTable)⟩

theorem change (valid : store.WellFormed) (change : Change store later) : later.WellFormed := by
  cases change with
  | drawTag => exact ⟨valid.tables, valid.table_lt, valid.parent⟩
  | createTable => exact valid.createTable
  | intern _ spelling => exact valid.internIn _ spelling
  | allocate => exact ⟨valid.tables, valid.table_lt, valid.parent⟩
  | globalIn made => exact valid.pushFrame made (fun _ encloses => by cases encloses)
  | @child e made =>
    have present := Array.getElem?_eq_getElem made
    refine valid.pushFrame ?_ ?_
    · rw [frame_eq made]
      exact valid.table_lt e store.frames[e] present
    · intro outer encloses
      cases encloses
      exact ⟨_, present, by rw [frame_eq made]⟩
  | define _ symbol value => exact valid.define _ symbol value

theorem changes (valid : store.WellFormed) (run : Changes store later) : later.WellFormed := by
  induction run with
  | refl => exact valid
  | tail _ step ih => exact ih.change step

end WellFormed

theorem Reachable.wellFormed (reachable : store.Reachable) : store.WellFormed :=
  WellFormed.empty.changes reachable

theorem changes_createGlobal (store : Store) : Changes store (createGlobal store).2 := by
  have made : store.tables.size < (Store.createTable store).2.tables.size := by
    rw [createTable_eq, Array.size_push]
    exact Nat.lt_succ_self _
  exact .tail (.single (.createTable store)) (.globalIn made)

theorem Reachable.createGlobal (reachable : store.Reachable) :
    (createGlobal store).2.Reachable :=
  Relation.ReflTransGen.trans reachable (changes_createGlobal store)

end SchemeBase.Store
