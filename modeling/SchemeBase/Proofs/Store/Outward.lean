import SchemeBase.Proofs.Store.Shadowing

/-! # Going outward

An environment is gone through from the inside out: to count its frames, to find a value, to find the
frame that an assignment writes, to collect all bindings. Each of these loops goes on as long as there
is a parent, and nothing in it sets a limit. In a well-formed store it ends all the same, whatever is
bound in the frames, because a frame lies inside an earlier one. So the chain of an environment, which
stops at a parent that is not an earlier frame, has all frames that such a loop meets.
-/

namespace SchemeBase.Store

variable {store later : Store} {e outer : FrameId} {symbol : Symbol} {limit : Nat}

/-- The frame that is met after so many steps from a frame to its parent. -/
def ancestor? (store : Store) : Nat → FrameId → Option FrameId
  | 0, e => some e
  | steps + 1, e => (store.frame e).parent.bind (store.ancestor? steps)

/-- A loop that visits a frame, then its parent, and so on, until a visit ends it or there is no parent.
At most `limit` frames are visited, and if these are too few there is no outcome. -/
def outward {α : Type} (store : Store) (visit : FrameId → α → ForInStep α) :
    Nat → FrameId → α → Option α
  | 0, _, _ => none
  | limit + 1, e, found =>
    match visit e found with
    | .done answer => some answer
    | .yield found =>
      match (store.frame e).parent with
      | some outer => store.outward visit limit outer found
      | none => some found

/-! ## Chains of well-formed stores -/

namespace WellFormed

/-- The parent of a frame is an earlier one, and it interns in the same table. -/
theorem enclosing (valid : store.WellFormed) (encloses : (store.frame e).parent = some outer) :
    outer < e ∧ (store.frame outer).table = (store.frame e).table := by
  cases present : store.frames[e]? with
  | none => simp [frame, present] at encloses
  | some inside =>
    have read : store.frame e = inside := by rw [frame, present, Option.getD_some]
    rw [read] at encloses ⊢
    obtain ⟨before, outside, found, same⟩ := valid.parent e inside outer present encloses
    refine ⟨before, ?_⟩
    rw [frame, found, Option.getD_some, same]

theorem parent_lt (valid : store.WellFormed) (encloses : (store.frame e).parent = some outer) :
    outer < e :=
  (valid.enclosing encloses).1

/-- What holds of frames without a parent, and of a frame if it holds of its parent, holds of all. -/
theorem outward_induction (valid : store.WellFormed) {motive : FrameId → Prop}
    (outermost : ∀ e, (store.frame e).parent = none → motive e)
    (inside : ∀ e outer, (store.frame e).parent = some outer → motive outer → motive e)
    (e : FrameId) : motive e := by
  induction e using Nat.strongRecOn with
  | ind e ih =>
    cases encloses : (store.frame e).parent with
    | none => exact outermost e encloses
    | some outer => exact inside e outer encloses (ih outer (valid.parent_lt encloses))

theorem chain_of_parent (valid : store.WellFormed) (encloses : (store.frame e).parent = some outer) :
    store.chain e = e :: store.chain outer := by
  rw [chain, encloses]
  simp only [if_pos (valid.parent_lt encloses)]

/-- The chain has the frames that are met on the way outward, in order. -/
theorem getElem?_chain (valid : store.WellFormed) (e : FrameId) (steps : Nat) :
    (store.chain e)[steps]? = store.ancestor? steps e := by
  induction e using valid.outward_induction generalizing steps with
  | outermost e last =>
    rw [chain_of_outermost last]
    cases steps with
    | zero => rfl
    | succ steps =>
      rw [ancestor?, last]
      rfl
  | inside e outer encloses ih =>
    rw [valid.chain_of_parent encloses]
    cases steps with
    | zero => rfl
    | succ steps =>
      rw [List.getElem?_cons_succ, ih, ancestor?, encloses]
      rfl

theorem le_of_mem_chain (valid : store.WellFormed) (e : FrameId) : ∀ f ∈ store.chain e, f ≤ e := by
  induction e using valid.outward_induction with
  | outermost e last =>
    rw [chain_of_outermost last]
    exact List.forall_mem_singleton.mpr (Nat.le_refl e)
  | inside e outer encloses ih =>
    rw [valid.chain_of_parent encloses]
    have below := Nat.le_of_lt (valid.parent_lt encloses)
    exact List.forall_mem_cons.mpr ⟨Nat.le_refl e, fun f member => Nat.le_trans (ih f member) below⟩

/-- No frame is met twice. -/
theorem nodup_chain (valid : store.WellFormed) (e : FrameId) : (store.chain e).Nodup := by
  induction e using valid.outward_induction with
  | outermost e last =>
    rw [chain_of_outermost last]
    exact List.nodup_singleton e
  | inside e outer encloses ih =>
    rw [valid.chain_of_parent encloses]
    refine List.nodup_cons.mpr ⟨fun member => ?_, ih⟩
    have above := valid.le_of_mem_chain outer e member
    exact Nat.not_lt.mpr above (valid.parent_lt encloses)

theorem depth_of_parent (valid : store.WellFormed) (encloses : (store.frame e).parent = some outer) :
    store.depth e = store.depth outer + 1 := by
  rw [depth, valid.chain_of_parent encloses, List.length_cons, depth]

/-- The last frame that is met has no parent. -/
theorem exists_outermost (valid : store.WellFormed) (e : FrameId) : ∃ steps last,
    store.depth e = steps + 1 ∧ store.ancestor? steps e = some last ∧
      (store.frame last).parent = none := by
  induction e using valid.outward_induction with
  | outermost e last => exact ⟨0, e, by rw [depth, chain_of_outermost last]; rfl, rfl, last⟩
  | inside e outer encloses ih =>
    obtain ⟨steps, last, counted, met, outermost⟩ := ih
    refine ⟨steps + 1, last, by rw [valid.depth_of_parent encloses, counted], ?_, outermost⟩
    rw [ancestor?, encloses]
    exact met

theorem isGlobal_iff (valid : store.WellFormed) (e : FrameId) :
    store.isGlobal e = true ↔ store.depth e = 1 := by
  rw [isGlobal, Option.isNone_iff_eq_none]
  cases encloses : (store.frame e).parent with
  | none =>
    rw [depth, chain_of_outermost encloses]
    exact iff_of_true rfl rfl
  | some outer =>
    rw [valid.depth_of_parent encloses, depth, chain, List.length_cons]
    refine iff_of_false (Option.some_ne_none outer) ?_
    omega

/-! ## Loops that go outward -/

/-- With a limit of the depth or more, a loop goes through the chain. -/
theorem outward_eq (valid : store.WellFormed) {α : Type} (visit : FrameId → α → ForInStep α)
    (enough : store.depth e ≤ limit) (found : α) :
    store.outward visit limit e found = some (forIn (store.chain e) found visit : Id α) := by
  induction e using valid.outward_induction generalizing limit found with
  | outermost e last =>
    obtain ⟨limit, rfl⟩ : ∃ less, limit = less + 1 := ⟨limit - 1, by
      rw [depth, chain, List.length_cons] at enough
      omega⟩
    rw [outward, chain_of_outermost last, last, List.forIn_cons]
    cases visit e found <;> rfl
  | inside e outer encloses ih =>
    rw [valid.depth_of_parent encloses] at enough
    obtain ⟨limit, rfl⟩ : ∃ less, limit = less + 1 := ⟨limit - 1, by omega⟩
    rw [outward, valid.chain_of_parent encloses, encloses, List.forIn_cons]
    cases visit e found with
    | done answer => rfl
    | yield found => exact ih (Nat.le_of_succ_le_succ enough) found

end WellFormed

/-- Counts the frames. -/
def counting (_ : FrameId) (count : Nat) : ForInStep Nat :=
  .yield (count + 1)

/-- Ends at the first value of a symbol. -/
def seekingValue (store : Store) (symbol : Symbol) (f : FrameId) (found : Option Value) :
    ForInStep (Option Value) :=
  match store.local? f symbol with
  | some value => .done (some value)
  | none => .yield found

/-- Ends at the first frame that binds a symbol. -/
def seekingBinder (store : Store) (symbol : Symbol) (f : FrameId) (found : Option FrameId) :
    ForInStep (Option FrameId) :=
  if store.isBoundLocally f symbol then .done (some f) else .yield found

/-- Collects the bindings of a frame, except those of symbols that have a value already. -/
def gathering (store : Store) (f : FrameId) (found : Std.TreeMap Symbol Value) :
    ForInStep (Std.TreeMap Symbol Value) :=
  .yield ((store.frame f).bindings ∪ found)

theorem forIn_counting (frames : List FrameId) (count : Nat) :
    (forIn frames count counting : Id Nat) = count + frames.length := by
  induction frames generalizing count with
  | nil => rfl
  | cons f frames ih =>
    rw [List.forIn_cons, List.length_cons, Nat.add_comm frames.length, ← Nat.add_assoc]
    exact ih (count + 1)

theorem forIn_seekingValue (store : Store) (symbol : Symbol) (frames : List FrameId) :
    (forIn frames none (store.seekingValue symbol) : Id (Option Value)) =
      frames.findSome? (store.local? · symbol) := by
  induction frames with
  | nil => rfl
  | cons f frames ih =>
    rw [List.forIn_cons, List.findSome?_cons, seekingValue]
    cases store.local? f symbol with
    | some value => rfl
    | none => exact ih

theorem forIn_seekingBinder (store : Store) (symbol : Symbol) (frames : List FrameId) :
    (forIn frames none (store.seekingBinder symbol) : Id (Option FrameId)) =
      frames.find? (store.isBoundLocally · symbol) := by
  induction frames with
  | nil => rfl
  | cons f frames ih =>
    rw [List.forIn_cons, List.find?_cons, seekingBinder]
    cases store.isBoundLocally f symbol with
    | true => rfl
    | false => exact ih

theorem getElem?_forIn_gathering (store : Store) (frames : List FrameId)
    (found : Std.TreeMap Symbol Value) (symbol : Symbol) :
    (forIn frames found store.gathering : Id (Std.TreeMap Symbol Value)).run[symbol]? =
      found[symbol]?.or (frames.findSome? (store.local? · symbol)) := by
  induction frames generalizing found with
  | nil => exact (Option.or_none ..).symm
  | cons f frames ih =>
    rw [List.forIn_cons, List.findSome?_cons]
    refine (ih ((store.frame f).bindings ∪ found)).trans ?_
    rw [Std.TreeMap.getElem?_union, Option.or_assoc]
    congr 1
    rw [local?]
    cases (store.frame f).bindings[symbol]? <;> rfl

/-- Among all visible bindings is the one that a lookup finds. -/
theorem getElem?_capture (store : Store) (e : FrameId) (symbol : Symbol) :
    (store.capture e)[symbol]? = store.lookup? e symbol := by
  rw [capture, lookup?]
  induction store.chain e with
  | nil => rfl
  | cons f frames ih =>
    rw [List.foldr_cons, List.findSome?_cons, Std.TreeMap.getElem?_union, ih, local?]
    cases (store.frame f).bindings[symbol]? <;> rfl

/-- The way outward from a frame ends without a frame that is met twice, and so does every loop that
goes it. -/
structure EndsOutward (store : Store) (e : FrameId) : Prop where
  outermost : ∃ steps last, store.depth e = steps + 1 ∧ store.ancestor? steps e = some last ∧
    (store.frame last).parent = none
  once : ∀ i j f, store.ancestor? i e = some f → store.ancestor? j e = some f → i = j
  loop : ∀ {α : Type} (visit : FrameId → α → ForInStep α) (found : α), ∃ answer,
    ∀ limit, store.depth e ≤ limit → store.outward visit limit e found = some answer
  depth : ∀ limit, store.depth e ≤ limit → store.outward counting limit e 0 = some (store.depth e)
  lookup : ∀ symbol limit, store.depth e ≤ limit →
    store.outward (store.seekingValue symbol) limit e none = some (store.lookup? e symbol)
  assign : ∀ symbol limit, store.depth e ≤ limit →
    store.outward (store.seekingBinder symbol) limit e none = some (store.binder? e symbol)
  capture : ∃ captured, captured.Equiv (store.capture e) ∧
    ∀ limit, store.depth e ≤ limit → store.outward store.gathering limit e {} = some captured

theorem WellFormed.endsOutward (valid : store.WellFormed) (e : FrameId) : store.EndsOutward e where
  outermost := valid.exists_outermost e
  once i j f met again := by
    rw [← valid.getElem?_chain] at met again
    have within := (List.getElem?_eq_some_iff.mp met).1
    exact (List.getElem?_inj within (valid.nodup_chain e)).mp (met.trans again.symm)
  loop visit found := ⟨_, fun _ enough => valid.outward_eq visit enough found⟩
  depth limit enough := by
    rw [valid.outward_eq counting enough, forIn_counting, Nat.zero_add, Store.depth]
  lookup symbol limit enough := by
    rw [valid.outward_eq _ enough, forIn_seekingValue, lookup?]
  assign symbol limit enough := by
    rw [valid.outward_eq _ enough, forIn_seekingBinder, binder?]
  capture := by
    refine ⟨_, ?_, fun _ enough => valid.outward_eq _ enough {}⟩
    refine Std.TreeMap.Equiv.of_forall_constGet?_eq fun symbol => ?_
    refine (store.getElem?_forIn_gathering (store.chain e) {} symbol).trans ?_
    rw [getElem?_capture, lookup?]
    rfl

/-! ## Frames that were made -/

theorem frame_pushFrame_of_lt (made : e < store.frames.size) (frame : Frame) :
    (pushFrame frame store).2.frame e = store.frame e := by
  change (store.frames.push frame)[e]?.getD _ = store.frames[e]?.getD _
  rw [Array.getElem?_push_lt made, Array.getElem?_eq_getElem made]

theorem frame_pushFrame_self (frame : Frame) (store : Store) :
    (pushFrame frame store).2.frame store.frames.size = frame := by
  change (store.frames.push frame)[store.frames.size]?.getD _ = frame
  rw [Array.getElem?_push_size, Option.getD_some]

/-- The frames of a store are there later, inside the same frames and over the same tables. -/
structure Keeps (store later : Store) : Prop where
  size_le : store.frames.size ≤ later.frames.size
  parent : ∀ e < store.frames.size, (later.frame e).parent = (store.frame e).parent
  table : ∀ e < store.frames.size, (later.frame e).table = (store.frame e).table

namespace Keeps

theorem of_frames_eq (same : later.frames = store.frames) : store.Keeps later where
  size_le := by rw [same]
  parent e _ := by rw [frame, frame, same]
  table e _ := by rw [frame, frame, same]

theorem trans {middle : Store} (left : store.Keeps middle) (right : middle.Keeps later) :
    store.Keeps later where
  size_le := Nat.le_trans left.size_le right.size_le
  parent e made :=
    (right.parent e (Nat.lt_of_lt_of_le made left.size_le)).trans (left.parent e made)
  table e made := (right.table e (Nat.lt_of_lt_of_le made left.size_le)).trans (left.table e made)

theorem pushFrame (frame : Frame) (store : Store) : store.Keeps (pushFrame frame store).2 where
  size_le := by
    change _ ≤ (store.frames.push frame).size
    rw [Array.size_push]
    exact Nat.le_succ _
  parent e made := by rw [frame_pushFrame_of_lt made]
  table e made := by rw [frame_pushFrame_of_lt made]

theorem define (made : e < store.frames.size) (symbol : Symbol) (value : Value) :
    store.Keeps (store.define e symbol value) where
  size_le := Nat.le_of_eq Array.size_modify.symm
  parent f _ := (frame_define_shape made symbol value f).1
  table f _ := (frame_define_shape made symbol value f).2

theorem change (change : Change store later) : store.Keeps later := by
  cases change with
  | drawTag => exact .of_frames_eq rfl
  | createTable => exact .of_frames_eq rfl
  | intern => exact .of_frames_eq rfl
  | allocate => exact .of_frames_eq rfl
  | globalIn => exact .pushFrame _ store
  | child => exact .pushFrame _ store
  | define made symbol value => exact .define made symbol value

theorem changes (run : Changes store later) : store.Keeps later := by
  induction run with
  | refl => exact .of_frames_eq rfl
  | tail _ step ih => exact ih.trans (.change step)

theorem chain (keeps : store.Keeps later) (made : e < store.frames.size) :
    later.chain e = store.chain e :=
  chain_congr fun f below => keeps.parent f (Nat.lt_of_le_of_lt below made)

/-- The depth of an environment never changes. -/
theorem depth (keeps : store.Keeps later) (made : e < store.frames.size) :
    later.depth e = store.depth e := by
  rw [Store.depth, keeps.chain made, Store.depth]

end Keeps

end SchemeBase.Store
