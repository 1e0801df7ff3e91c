import SchemeBase.Proofs.Store.Outward

/-! # Handles

A program reaches an environment by a handle, which names its innermost frame and brings the table
in which names are interned. Frames and tables are shared: many handles may lead to one frame, and a
value that is bound in a frame may hold this frame or any other. The table comes with the handle and
is not read from the frame, so nothing but the way in which handles are made sees to it that two
handles of one environment intern in the same table.

A session has handed out some handles and works through them. What it binds is any value at all.
Handles are not taken back, so the one that a procedure was made with can be used again wherever the
procedure went.
-/

namespace SchemeBase

/-- The innermost frame of an environment, and the table in which its names are interned. -/
structure Handle where
  frame : FrameId
  table : TableId

namespace Handle

/-- Adds a frame, and answers a handle with the table of the frame. -/
def make (frame : Frame) : StateM Store Handle := fun store =>
  let (made, later) := Store.pushFrame frame store
  (⟨made, frame.table⟩, later)

/-- Makes an empty global environment that interns in a given table. -/
def withTable (table : TableId) : StateM Store Handle :=
  make ⟨table, none, {}⟩

/-- Makes an empty global environment with a table of its own. -/
def createGlobal : StateM Store Handle := do
  withTable (← Store.createTable)

/-- Makes an empty frame inside the frame of a handle. The new handle takes over the table. -/
def child (h : Handle) : StateM Store Handle :=
  make ⟨h.table, some h.frame, {}⟩

/-- The handle leads to a frame that was made with its table. -/
structure Valid (h : Handle) (store : Store) : Prop where
  made : h.frame < store.frames.size
  table : (store.frame h.frame).table = h.table

variable {store later : Store} {h : Handle}

theorem Valid.keeps (valid : h.Valid store) (keeps : store.Keeps later) : h.Valid later where
  made := Nat.lt_of_lt_of_le valid.made keeps.size_le
  table := (keeps.table h.frame valid.made).trans valid.table

theorem frame_make (frame : Frame) (store : Store) :
    (make frame store).2.frame (make frame store).1.frame = frame :=
  Store.frame_pushFrame_self frame store

theorem valid_make (frame : Frame) (store : Store) :
    (make frame store).1.Valid (make frame store).2 where
  made := by
    change store.frames.size < (store.frames.push frame).size
    rw [Array.size_push]
    exact Nat.lt_succ_self _
  table := congrArg Frame.table (frame_make frame store)

/-- Inside a valid handle the same frame is made as inside its frame. -/
theorem Valid.child_eq (valid : h.Valid store) : (h.child store).2 = (Store.child h.frame store).2 := by
  change (Store.pushFrame ⟨h.table, some h.frame, {}⟩ store).2 = _
  rw [← valid.table]
  rfl

end Handle

/-- A store, the handles that were handed out, and those that were made inside others, each with the
handle it was made from. A copy of a handle is the same handle. -/
structure Session where
  store : Store := {}
  handles : List Handle := []
  children : List (Handle × Handle) := []

namespace Session

open Store (Change Changes)

/-- Goes on with another store. -/
def work (session : Session) (later : Store) : Session :=
  { session with store := later }

/-- Hands out a handle that was made. -/
def adopt (session : Session) (made : Handle × Store) : Session :=
  { session with store := made.2, handles := made.1 :: session.handles }

/-- Makes and hands out a handle inside another. -/
def enter (session : Session) (h : Handle) : Session :=
  { session.adopt (h.child session.store) with
    children := ((h.child session.store).1, h) :: session.children }

/-- One operation of a session. -/
inductive Operation : Session → Session → Prop
  | createGlobal (session : Session) :
      Operation session (session.adopt (Handle.createGlobal session.store))
  | withTable {session : Session} {table : TableId} (made : table < session.store.tables.size) :
      Operation session (session.adopt (Handle.withTable table session.store))
  | child {session : Session} {h : Handle} (held : h ∈ session.handles) :
      Operation session (session.enter h)
  | clone {session : Session} {h : Handle} (held : h ∈ session.handles) :
      Operation session (session.adopt (h, session.store))
  | define {session : Session} {h : Handle} (held : h ∈ session.handles) (symbol : Symbol)
      (value : Value) : Operation session (session.work (session.store.define h.frame symbol value))
  | assign {session : Session} {h : Handle} (held : h ∈ session.handles) (symbol : Symbol)
      (value : Value) :
      Operation session (session.work (Store.assign h.frame symbol value session.store).2)
  | other {session : Session} {later : Store} (change : Change session.store later)
      (same : later.frames = session.store.frames) : Operation session (session.work later)

/-- Any number of operations, one after another. -/
abbrev Operations : Session → Session → Prop := Relation.ReflTransGen Operation

/-- A session that operations lead to from the empty one. -/
def Reachable (session : Session) : Prop := Operations {} session

/-- One handle was made inside another, directly or by way of further handles. -/
def Descends (session : Session) : Handle → Handle → Prop :=
  Relation.TransGen fun inner outer => (inner, outer) ∈ session.children

/-- The invariant of all reachable sessions. -/
structure Sound (session : Session) : Prop where
  reachable : session.store.Reachable
  valid : ∀ h ∈ session.handles, h.Valid session.store
  child : ∀ inner outer, (inner, outer) ∈ session.children →
    inner ∈ session.handles ∧ outer ∈ session.handles ∧
      (session.store.frame inner.frame).parent = some outer.frame

variable {session next later : Session} {h inner outer : Handle} {store : Store}

/-! ## Operations keep a session sound -/

namespace Sound

theorem work (sound : session.Sound) (run : Changes session.store store) :
    (session.work store).Sound where
  reachable := Relation.ReflTransGen.trans sound.reachable run
  valid h held := (sound.valid h held).keeps (.changes run)
  child inner outer descent := by
    obtain ⟨innerHeld, outerHeld, encloses⟩ := sound.child inner outer descent
    have kept := (Store.Keeps.changes run).parent inner.frame (sound.valid inner innerHeld).made
    exact ⟨innerHeld, outerHeld, kept.trans encloses⟩

theorem adopt {made : Handle × Store} (sound : session.Sound) (run : Changes session.store made.2)
    (valid : made.1.Valid made.2) : (session.adopt made).Sound where
  reachable := (sound.work run).reachable
  valid := List.forall_mem_cons.mpr ⟨valid, (sound.work run).valid⟩
  child inner outer descent := by
    obtain ⟨innerHeld, outerHeld, encloses⟩ := (sound.work run).child inner outer descent
    exact ⟨List.mem_cons_of_mem _ innerHeld, List.mem_cons_of_mem _ outerHeld, encloses⟩

/-- The store changes as stores do, since a session has no handles but valid ones. -/
theorem changes (sound : session.Sound) (operation : Operation session next) :
    Changes session.store next.store := by
  cases operation with
  | createGlobal => exact Store.changes_createGlobal session.store
  | withTable made => exact .single (.globalIn made)
  | @child h held =>
    have valid := sound.valid h held
    change Changes session.store (h.child session.store).2
    rw [valid.child_eq]
    exact .single (.child valid.made)
  | clone => exact .refl
  | define held symbol value => exact .single (.define (sound.valid _ held).made symbol value)
  | @assign h held symbol value => exact session.store.changes_assign h.frame symbol value
  | other change => exact .single change

theorem operation (sound : session.Sound) (operation : Operation session next) : next.Sound := by
  have run := sound.changes operation
  cases operation with
  | createGlobal => exact sound.adopt run (Handle.valid_make _ _)
  | withTable => exact sound.adopt run (Handle.valid_make _ _)
  | @child h held =>
    have adopted := sound.adopt run (Handle.valid_make _ _)
    refine ⟨adopted.reachable, adopted.valid, fun inner outer descent => ?_⟩
    rcases List.mem_cons.mp descent with new | old
    · cases new
      refine ⟨List.mem_cons_self, List.mem_cons_of_mem _ held, ?_⟩
      exact congrArg Frame.parent (Handle.frame_make _ session.store)
    · exact adopted.child inner outer old
  | clone held => exact sound.adopt run (sound.valid _ held)
  | define => exact sound.work run
  | assign => exact sound.work run
  | other => exact sound.work run

theorem operations (sound : session.Sound) (run : Operations session later) :
    later.Sound ∧ session.store.Keeps later.store := by
  induction run with
  | refl => exact ⟨sound, .of_frames_eq rfl⟩
  | tail _ step ih => exact ⟨ih.1.operation step, ih.2.trans (.changes (ih.1.changes step))⟩

/-- A handle that was made inside another lies one frame further in, over the same table. -/
theorem descent (sound : session.Sound) (made : (inner, outer) ∈ session.children) :
    session.store.depth inner.frame = session.store.depth outer.frame + 1 ∧
      inner.table = outer.table := by
  obtain ⟨innerHeld, outerHeld, encloses⟩ := sound.child inner outer made
  have valid := sound.reachable.wellFormed
  refine ⟨valid.depth_of_parent encloses, ?_⟩
  rw [← (sound.valid inner innerHeld).table, ← (sound.valid outer outerHeld).table,
    (valid.enclosing encloses).2]

end Sound

theorem Reachable.sound (reachable : session.Reachable) : session.Sound := by
  have start : Sound {} :=
    { reachable := .refl
      valid := List.forall_mem_nil _
      child := fun _ _ descent => absurd descent List.not_mem_nil }
  exact (start.operations reachable).1

/-- Sessions lead to every reachable store, with a handle to each of its frames. -/
theorem exists_of_store_reachable (reachable : store.Reachable) : ∃ session : Session,
    session.Reachable ∧ session.store = store ∧
      ∀ e < store.frames.size, ∃ h ∈ session.handles, h.frame = e := by
  induction reachable with
  | refl => exact ⟨{}, .refl, rfl, fun e made => absurd made (Nat.not_lt_zero e)⟩
  | @tail store next _ change ih =>
    obtain ⟨session, reached, rfl, reaches⟩ := ih
    have beside (same : next.frames = session.store.frames) : ∃ session : Session,
        session.Reachable ∧ session.store = next ∧
          ∀ e < next.frames.size, ∃ h ∈ session.handles, h.frame = e :=
      ⟨session.work next, reached.tail (.other change same), rfl, by rw [same]; exact reaches⟩
    -- A handle to the new frame comes to those to the old ones.
    have pushed (frame : Frame) : ∀ e < (session.store.frames.push frame).size,
        ∃ h ∈ (Handle.make frame session.store).1 :: session.handles, h.frame = e := by
      intro e made
      rw [Array.size_push] at made
      rcases Nat.lt_succ_iff_lt_or_eq.mp made with old | rfl
      · obtain ⟨h, held, leads⟩ := reaches e old
        exact ⟨h, List.mem_cons_of_mem _ held, leads⟩
      · exact ⟨_, List.mem_cons_self, rfl⟩
    cases change with
    | drawTag => exact beside rfl
    | createTable => exact beside rfl
    | intern => exact beside rfl
    | allocate => exact beside rfl
    | globalIn made => exact ⟨_, reached.tail (.withTable made), rfl, pushed _⟩
    | @child e made =>
      obtain ⟨h, held, rfl⟩ := reaches e made
      have same := (reached.sound.valid h held).child_eq
      refine ⟨_, reached.tail (.child held), same, ?_⟩
      rw [← same]
      exact pushed _
    | @define e made symbol value =>
      obtain ⟨h, held, rfl⟩ := reaches e made
      refine ⟨_, reached.tail (.define held symbol value), rfl, fun f old => reaches f ?_⟩
      rwa [Store.define, Array.size_modify] at old

/-- Environments have no cycles, whatever is bound in them. From every frame the way outward ends, and
with it every loop that goes it; a frame without a parent is one of depth 1. No operation changes the
parent of a frame or the depth of an environment. A handle that was made inside another lies one frame
further in, and handles to one frame, like handles that descend from each other, intern in one table. -/
theorem Reachable.chains (reachable : session.Reachable) :
    (∀ e, session.store.EndsOutward e ∧
      (session.store.isGlobal e = true ↔ session.store.depth e = 1)) ∧
    (∀ later, Operations session later → ∀ e < session.store.frames.size,
      (later.store.frame e).parent = (session.store.frame e).parent ∧
        later.store.depth e = session.store.depth e) ∧
    (∀ h ∈ session.handles, h.frame < session.store.frames.size ∧
      (session.store.frame h.frame).table = h.table) ∧
    (∀ inner outer, (inner, outer) ∈ session.children →
      inner ∈ session.handles ∧ outer ∈ session.handles ∧
        session.store.depth inner.frame = session.store.depth outer.frame + 1) ∧
    (∀ one ∈ session.handles, ∀ other ∈ session.handles, one.frame = other.frame →
      one.table = other.table) ∧
    ∀ inner outer, session.Descends inner outer → inner.table = outer.table := by
  have sound := reachable.sound
  have valid := sound.reachable.wellFormed
  refine ⟨fun e => ⟨valid.endsOutward e, valid.isGlobal_iff e⟩, fun later run e made => ?_,
    fun h held => ⟨(sound.valid h held).made, (sound.valid h held).table⟩,
    fun inner outer made => ?_, fun one held other heldToo same => ?_, fun inner outer descent => ?_⟩
  · have keeps := (sound.operations run).2
    exact ⟨keeps.parent e made, keeps.depth made⟩
  · obtain ⟨innerHeld, outerHeld, _⟩ := sound.child inner outer made
    exact ⟨innerHeld, outerHeld, (sound.descent made).1⟩
  · rw [← (sound.valid one held).table, same, (sound.valid other heldToo).table]
  · induction descent with
    | single made => exact (sound.descent made).2
    | tail _ made ih => exact ih.trans (sound.descent made).2

/-- A procedure that holds the innermost of three frames is bound in the outermost, and replaced from
inside. -/
theorem Reachable.chains_closure :
    let x : Symbol := .ofParts 0 1 2
    let code : Lambda := { params := [], rest := none, body := .null, frame := 2, name := none }
    let top : Handle := ⟨0, 0⟩
    let inner : Handle := ⟨1, 0⟩
    let innermost : Handle := ⟨2, 0⟩
    let nested := ((Session.adopt {} (Handle.createGlobal {})).enter top).enter inner
    let bound := nested.work (nested.store.define top.frame x (.lambda 0 code))
    let later := bound.work (Store.assign innermost.frame x (.integer 1) bound.store).2
    bound.Reachable ∧ Operations bound later ∧
      bound.store.EndsOutward 2 ∧ bound.store.isGlobal 2 = false ∧
      later.store.depth 2 = bound.store.depth 2 ∧ bound.store.depth 2 = bound.store.depth 1 + 1 ∧
      innermost.table = top.table := by
  intro x code top inner innermost nested bound later
  have nestedReachable : nested.Reachable :=
    ((Relation.ReflTransGen.single (.createGlobal {})).tail (.child List.mem_cons_self)).tail
      (.child List.mem_cons_self)
  have topHeld : top ∈ nested.handles := .tail _ (.tail _ (.head _))
  have boundReachable : bound.Reachable := nestedReachable.tail (.define topHeld x _)
  have run : Operations bound later := .single (.assign List.mem_cons_self x _)
  obtain ⟨ends, kept, _, depths, _, tables⟩ := boundReachable.chains
  have outside : (inner, top) ∈ bound.children := .tail _ (.head _)
  have inside : (innermost, inner) ∈ bound.children := .head _
  have deep := (depths _ _ outside).2.2
  have deeper := (depths _ _ inside).2.2
  refine ⟨boundReachable, run, (ends 2).1, ?_, (kept later run 2 (by decide)).2, deeper,
    tables _ _ (.tail (.single inside) outside)⟩
  rw [← Bool.not_eq_true, (ends 2).2, deeper, deep]
  omega

end Session

end SchemeBase
