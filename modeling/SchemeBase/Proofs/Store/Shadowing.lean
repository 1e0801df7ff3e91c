import SchemeBase.Proofs.Store.Definition

/-! # Shadowing

Environments share frames, so a binding that is written in one frame may show in many environments.
It shows in those whose chain reaches the frame before any other frame gives the symbol a value, and
in no other. A definition and an assignment differ only in the frame they write: a definition takes
the innermost one, an assignment the one that the lookup of the symbol ends at.
-/

namespace SchemeBase.Store

variable {store : Store} {e f g : FrameId} {symbol other : Symbol} {value : Value}

/-! ## Which frames show -/

/-- Along a list of frames one is reached before any other gives the symbol a value. -/
def ReachedIn (store : Store) (symbol : Symbol) (f : FrameId) (frames : List FrameId) : Prop :=
  ∃ inner outer, frames = inner ++ f :: outer ∧ ∀ g ∈ inner, store.local? g symbol = none

/-- The frame belongs to the environment, and no frame further in gives the symbol a value. -/
def Exposes (store : Store) (e : FrameId) (symbol : Symbol) (f : FrameId) : Prop :=
  store.ReachedIn symbol f (store.chain e)

/-- The frame gives the symbol a value, and it is the nearest one of the environment to do so. -/
def Nearest (store : Store) (e : FrameId) (symbol : Symbol) (f : FrameId) : Prop :=
  store.Exposes e symbol f ∧ (store.local? f symbol).isSome

theorem not_reachedIn_nil : ¬ store.ReachedIn symbol f [] := by
  rintro ⟨inner, outer, split, _⟩
  cases inner <;> cases split

theorem reachedIn_cons_iff {frames : List FrameId} : store.ReachedIn symbol f (g :: frames) ↔
    g = f ∨ store.local? g symbol = none ∧ store.ReachedIn symbol f frames := by
  constructor
  · rintro ⟨inner, outer, split, hidden⟩
    cases inner with
    | nil =>
      cases split
      exact .inl rfl
    | cons _ inner =>
      cases split
      obtain ⟨first, rest⟩ := List.forall_mem_cons.mp hidden
      exact .inr ⟨first, inner, outer, rfl, rest⟩
  · rintro (rfl | ⟨first, inner, outer, rfl, rest⟩)
    · exact ⟨[], frames, rfl, List.forall_mem_nil _⟩
    · exact ⟨g :: inner, outer, rfl, List.forall_mem_cons.mpr ⟨first, rest⟩⟩

theorem isBoundLocally_eq (store : Store) (f : FrameId) (symbol : Symbol) :
    store.isBoundLocally f symbol = (store.local? f symbol).isSome :=
  Std.TreeMap.contains_eq_isSome_getElem?

/-- A lookup gives the value of the nearest frame that has one. -/
theorem lookup?_eq_some_iff : store.lookup? e symbol = some value ↔
    ∃ f, store.Exposes e symbol f ∧ store.local? f symbol = some value := by
  simp only [lookup?, List.findSome?_eq_some_iff, Exposes, ReachedIn]
  constructor
  · rintro ⟨inner, f, outer, split, bound, hidden⟩
    exact ⟨f, ⟨inner, outer, split, hidden⟩, bound⟩
  · rintro ⟨f, ⟨inner, outer, split, hidden⟩, bound⟩
    exact ⟨inner, f, outer, split, bound, hidden⟩

/-- The frame that an assignment writes is the nearest one that gives the symbol a value. -/
theorem binder?_eq_some_iff : store.binder? e symbol = some f ↔ store.Nearest e symbol f := by
  simp only [binder?, List.find?_eq_some_iff_append, isBoundLocally_eq, Bool.not_eq_true',
    Option.isSome_eq_false_iff, Option.isNone_iff_eq_none, Nearest, Exposes, ReachedIn]
  exact and_comm

/-- Lookup and assignment stop at the same frame. -/
theorem isSome_lookup?_iff : (store.lookup? e symbol).isSome ↔ (store.binder? e symbol).isSome := by
  simp only [Option.isSome_iff_exists, lookup?_eq_some_iff, binder?_eq_some_iff, Nearest]
  constructor
  · rintro ⟨value, f, exposed, bound⟩
    exact ⟨f, exposed, value, bound⟩
  · rintro ⟨f, exposed, value, bound⟩
    exact ⟨value, f, exposed, bound⟩

/-! ## A definition, seen from any environment -/

theorem frame_define_of_ne (apart : f ≠ e) (symbol : Symbol) (value : Value) :
    (store.define e symbol value).frame f = store.frame f := by
  simp only [frame, getElem?_frames_define, if_neg (Ne.symm apart)]

/-- A definition changes nothing of a frame but its bindings. -/
theorem frame_define_shape (made : e < store.frames.size) (symbol : Symbol) (value : Value)
    (f : FrameId) :
    ((store.define e symbol value).frame f).parent = (store.frame f).parent ∧
      ((store.define e symbol value).frame f).table = (store.frame f).table := by
  by_cases same : f = e
  · subst same
    rw [frame_define_self made]
    exact ⟨rfl, rfl⟩
  · rw [frame_define_of_ne same]
    exact ⟨rfl, rfl⟩

theorem local?_define (made : e < store.frames.size) (symbol : Symbol) (value : Value)
    (f : FrameId) (other : Symbol) :
    (store.define e symbol value).local? f other =
      if other = symbol ∧ f = e then some value else store.local? f other := by
  by_cases same : f = e
  · subst same
    simp only [local?_define_self made, and_true]
  · rw [if_neg (same ·.2), local?, frame_define_of_ne same, local?]

theorem chain_define (made : e < store.frames.size) (symbol : Symbol) (value : Value)
    (f : FrameId) : (store.define e symbol value).chain f = store.chain f :=
  chain_congr fun g _ => (frame_define_shape made symbol value g).1

theorem unbound_define (made : e < store.frames.size) (symbol : Symbol) (value : Value)
    (f : FrameId) (other : Symbol) :
    (store.define e symbol value).unbound f other = store.unbound f other := by
  simp only [unbound, tableOf, (frame_define_shape made symbol value f).2]
  rfl

/-- Along any frames the new value is found where they reach the frame of the definition, and
otherwise what was found before. -/
theorem findSome?_local?_define (made : e < store.frames.size) (symbol : Symbol) (value : Value)
    (frames : List FrameId) :
    (store.ReachedIn symbol e frames →
      frames.findSome? ((store.define e symbol value).local? · symbol) = some value) ∧
    (¬ store.ReachedIn symbol e frames →
      frames.findSome? ((store.define e symbol value).local? · symbol) =
        frames.findSome? (store.local? · symbol)) := by
  induction frames with
  | nil => exact ⟨fun reached => absurd reached not_reachedIn_nil, fun _ => rfl⟩
  | cons g frames ih =>
    simp only [List.findSome?_cons, reachedIn_cons_iff, local?_define made, true_and]
    by_cases same : g = e
    · simp [same]
    · -- A frame further in decides, or it has no value and the rest decides.
      simp only [local?_define made, true_and] at ih
      cases bound : store.local? g symbol with
      | none => simpa [same] using ih
      | some _ => simp [same]

/-- A definition gives its symbol the new value in the environments that expose its frame, -/
theorem lookup_define_of_exposes (made : e < store.frames.size) (exposed : store.Exposes f symbol e)
    (value : Value) : (store.define e symbol value).lookup f symbol = .ok value := by
  have found := (findSome?_local?_define made symbol value (store.chain f)).1 exposed
  rw [lookup, lookup?, chain_define made, found]

/-- and changes no other lookup. -/
theorem lookup_define_of_not_exposes (made : e < store.frames.size)
    (hidden : ¬ (other = symbol ∧ store.Exposes f symbol e)) (value : Value) :
    (store.define e symbol value).lookup f other = store.lookup f other := by
  have same : (store.define e symbol value).lookup? f other = store.lookup? f other := by
    rw [lookup?, lookup?, chain_define made]
    by_cases named : other = symbol
    · subst named
      exact (findSome?_local?_define made other value (store.chain f)).2
        fun exposed => hidden ⟨rfl, exposed⟩
    · simp only [local?_define made, named, false_and, if_false]
  rw [lookup, lookup, same, unbound_define made]

theorem localSize_define (made : e < store.frames.size) (symbol : Symbol) (value : Value) :
    (store.define e symbol value).localSize e =
      if store.isBoundLocally e symbol then store.localSize e else store.localSize e + 1 := by
  simp only [localSize, frame_define_self made, Std.TreeMap.size_insert]
  rfl

/-- A definition in a frame shows in the environments that reach the frame before the symbol is
bound, and in no other environment and for no other symbol. It adds at most one binding to its
frame, and leaves all other frames alone. -/
theorem lookup_define (store : Store) (e : FrameId) (made : e < store.frames.size)
    (symbol : Symbol) (value : Value) :
    let later := store.define e symbol value
    (∀ f other, (other = symbol ∧ store.Exposes f symbol e → later.lookup f other = .ok value) ∧
      (¬ (other = symbol ∧ store.Exposes f symbol e) →
        later.lookup f other = store.lookup f other)) ∧
    later.localSize e =
      (if store.isBoundLocally e symbol then store.localSize e else store.localSize e + 1) ∧
    (∀ f, f ≠ e → later.frames[f]? = store.frames[f]?) ∧
    later.frames.size = store.frames.size ∧ later.tables = store.tables := by
  intro later
  refine ⟨fun f other => ⟨?_, fun hidden => lookup_define_of_not_exposes made hidden value⟩,
    localSize_define made symbol value, fun f apart => ?_, Array.size_modify, rfl⟩
  · rintro ⟨rfl, exposed⟩
    exact lookup_define_of_exposes made exposed value
  · rw [getElem?_frames_define, if_neg (Ne.symm apart)]

/-- A frame between the top level and two others takes a binding: it shows in the frame inside that
is empty, is hidden in the one that binds the symbol, and does not show at the top level. -/
theorem lookup_define_between :
    let x : Symbol := .ofParts 0 1 2
    let binds (value : Value) : Std.TreeMap Symbol Value := .insert {} x value
    let store : Store :=
      { tables := #[.create 0]
        frames := #[⟨0, none, binds (.integer 1)⟩, ⟨0, some 0, {}⟩, ⟨0, some 1, {}⟩,
          ⟨0, some 1, binds (.integer 3)⟩] }
    let later := store.define 1 x (.integer 2)
    1 < store.frames.size ∧ later.lookup 2 x = .ok (.integer 2) ∧
      later.lookup 3 x = store.lookup 3 x ∧ later.lookup 0 x = store.lookup 0 x ∧
      later.localSize 1 = 1 := by
  intro x binds store later
  have made : 1 < store.frames.size := by decide
  obtain ⟨lookups, counted, _⟩ := store.lookup_define 1 made x (.integer 2)
  have shown : store.Exposes 2 x 1 :=
    ⟨[2], [0], by decide +kernel, List.forall_mem_singleton.mpr rfl⟩
  have shadowed : ¬ store.Exposes 3 x 1 := by
    have chain : store.chain 3 = [3, 1, 0] := by decide +kernel
    have bound : store.local? 3 x = some (.integer 3) := rfl
    simp [Exposes, chain, reachedIn_cons_iff, bound]
  have outside : ¬ store.Exposes 0 x 1 := by
    have chain : store.chain 0 = [0] := by decide +kernel
    simp [Exposes, chain, reachedIn_cons_iff, not_reachedIn_nil]
  exact ⟨made, (lookups 2 x).1 ⟨rfl, shown⟩, (lookups 3 x).2 (shadowed ·.2),
    (lookups 0 x).2 (outside ·.2), counted⟩

/-! ## An assignment -/

theorem lt_size_of_local? (bound : (store.local? f symbol).isSome) : f < store.frames.size := by
  refine Nat.lt_of_not_le fun outside => ?_
  have missing : store.frames[f]? = none := Array.getElem?_eq_none outside
  simp [local?, frame, missing] at bound

/-- An assignment writes the nearest frame that gives the symbol a value, or fails as the lookup of
the symbol does. -/
theorem assign_cases (store : Store) (e : FrameId) (symbol : Symbol) (value : Value) :
    (∃ f old, store.Nearest e symbol f ∧ store.lookup e symbol = .ok old ∧
      assign e symbol value store = (.ok (), store.define f symbol value)) ∨
    (store.lookup e symbol = .error (store.unbound e symbol) ∧
      assign e symbol value store = (.error (store.unbound e symbol), store)) := by
  unfold assign lookup
  cases found : store.binder? e symbol with
  | some f =>
    have bound : (store.lookup? e symbol).isSome := by
      rw [isSome_lookup?_iff, found]
      rfl
    obtain ⟨old, read⟩ := Option.isSome_iff_exists.mp bound
    exact .inl ⟨f, old, binder?_eq_some_iff.mp found, by rw [read], rfl⟩
  | none =>
    have unread : store.lookup? e symbol = none := by
      rw [← Option.not_isSome_iff_eq_none, isSome_lookup?_iff, found]
      exact Bool.false_ne_true
    exact .inr ⟨by rw [unread], rfl⟩

/-- An assignment is a definition in some frame, or nothing. -/
theorem changes_assign (store : Store) (e : FrameId) (symbol : Symbol) (value : Value) :
    Changes store (assign e symbol value store).2 := by
  obtain ⟨f, _, nearest, _, run⟩ | ⟨_, run⟩ := store.assign_cases e symbol value
  · rw [run]
    exact .single (.define (lt_size_of_local? nearest.2) symbol value)
  · rw [run]

theorem Nearest.eq (one : store.Nearest e symbol f) (other : store.Nearest e symbol g) : f = g :=
  Option.some.inj ((binder?_eq_some_iff.mpr one).symm.trans (binder?_eq_some_iff.mpr other))

/-- A definition in a frame that gives the symbol a value already binds no symbol anew. -/
theorem isBoundLocally_define_of_bound (bound : (store.local? f symbol).isSome) (value : Value)
    (g : FrameId) (other : Symbol) :
    (store.define f symbol value).isBoundLocally g other = store.isBoundLocally g other := by
  rw [isBoundLocally_eq, isBoundLocally_eq, local?_define (lt_size_of_local? bound)]
  split
  · next same =>
    obtain ⟨rfl, rfl⟩ := same
    exact bound.symm
  · rfl

/-- An assignment fails just where the lookup of its symbol does and with the same error, and then
changes nothing. Otherwise the new value shows in the environments that found the symbol in the same
frame, every other lookup gives what it gave, and all frames bind the symbols that they bound. -/
theorem lookup_assign (store : Store) (e : FrameId) (symbol : Symbol) (value : Value) :
    let outcome := assign e symbol value store
    (∀ error, outcome.1 = .error error ↔ store.lookup e symbol = .error error) ∧
    (∀ error, outcome.1 = .error error →
      error = .unboundVariable ((store.tableOf e).spelling symbol) ∧ outcome.2 = store) ∧
    (outcome.1 = .ok () →
      (∀ f other,
        (other = symbol ∧ (∃ g, store.Nearest f symbol g ∧ store.Nearest e symbol g) →
          outcome.2.lookup f other = .ok value) ∧
        (¬ (other = symbol ∧ ∃ g, store.Nearest f symbol g ∧ store.Nearest e symbol g) →
          outcome.2.lookup f other = store.lookup f other)) ∧
      ∀ f other, outcome.2.isBoundLocally f other = store.isBoundLocally f other) := by
  intro outcome
  obtain ⟨g, old, nearest, read, run⟩ | ⟨unread, run⟩ := store.assign_cases e symbol value
  · have result : outcome = (.ok (), store.define g symbol value) := run
    have made := lt_size_of_local? nearest.2
    rw [result, read]
    refine ⟨by simp, by simp, fun _ => ⟨fun f other => ⟨?_, ?_⟩, ?_⟩⟩
    · rintro ⟨rfl, g', shared, same⟩
      cases same.eq nearest
      exact lookup_define_of_exposes made shared.1 value
    · intro apart
      refine lookup_define_of_not_exposes made (fun shown => apart ⟨shown.1, g, ?_, nearest⟩) value
      exact ⟨shown.2, nearest.2⟩
    · exact isBoundLocally_define_of_bound nearest.2 value
  · have result : outcome = (.error (store.unbound e symbol), store) := run
    rw [result, unread]
    refine ⟨by simp, fun error failure => ?_, by simp⟩
    cases failure
    exact ⟨rfl, rfl⟩

/-- From the innermost of three frames an assignment reaches the binding at the top level. It shows
in every environment but the one that shadows it, and a name without a binding is refused. -/
theorem lookup_assign_through :
    let x : Symbol := .ofParts 0 1 2
    let y : Symbol := .ofParts 0 1 3
    let binds (value : Value) : Std.TreeMap Symbol Value := .insert {} x value
    let store : Store :=
      { tables := #[.create 0]
        frames := #[⟨0, none, binds (.integer 1)⟩, ⟨0, some 0, {}⟩, ⟨0, some 1, {}⟩,
          ⟨0, some 0, binds (.integer 3)⟩] }
    let outcome := assign 2 x (.integer 2) store
    outcome.1 = .ok () ∧ outcome.2.lookup 0 x = .ok (.integer 2) ∧
      outcome.2.lookup 3 x = store.lookup 3 x ∧
      outcome.2.isBoundLocally 2 x = store.isBoundLocally 2 x ∧
      (assign 2 y (.integer 2) store).2 = store := by
  intro x y binds store outcome
  have found : store.binder? 2 x = some 0 := by decide +kernel
  have missing : store.binder? 2 y = none := by decide +kernel
  have success : outcome.1 = .ok () := by simp only [outcome, assign, found]
  have refusal : (assign 2 y (.integer 2) store).1 = .error (store.unbound 2 y) := by
    simp only [assign, missing]
  obtain ⟨lookups, bound⟩ := (store.lookup_assign 2 x (.integer 2)).2.2 success
  have reached : store.Nearest 2 x 0 := binder?_eq_some_iff.mp found
  have top : store.Nearest 0 x 0 := binder?_eq_some_iff.mp (by decide +kernel)
  have own : store.Nearest 3 x 3 := binder?_eq_some_iff.mp (by decide +kernel)
  refine ⟨success, (lookups 0 x).1 ⟨rfl, 0, top, reached⟩, (lookups 3 x).2 ?_, bound 2 x,
    ((store.lookup_assign 2 y (.integer 2)).2.1 _ refusal).2⟩
  rintro ⟨_, g, shadowed, same⟩
  cases same.eq reached
  cases shadowed.eq own

end SchemeBase.Store
