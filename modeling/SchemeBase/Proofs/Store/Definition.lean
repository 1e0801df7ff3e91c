import SchemeBase.Proofs.Store.Reachable
import SchemeBase.Proofs.Symbol.History
import SchemeBase.Proofs.Symbol.Room
import SchemeBase.Library.Basic

/-! # Definitions in a frame

Defining bindings by name interns the names in order and binds their symbols in one frame. What
the store shows afterwards needs no symbol of the run: a symbol of the frame has the last value that
was defined under its spelling, or else the value it had. No other frame and no other table takes
part, and the run ends early only where a shard is full.
-/

namespace SchemeBase

/-- The last value that a list of bindings gives a name. -/
def lastValue? (bindings : List Binding) (name : String) : Option Value :=
  (bindings.reverse.find? (·.name == name)).map (·.value)

theorem lastValue?_append (first second : List Binding) (name : String) :
    lastValue? (first ++ second) name = (lastValue? second name).or (lastValue? first name) := by
  simp only [lastValue?, List.reverse_append, List.find?_append, Option.map_or]

theorem lastValue?_eq_none_iff {bindings : List Binding} {name : String} :
    lastValue? bindings name = none ↔ name ∉ bindings.map Binding.name := by
  simp only [lastValue?, Option.map_eq_none_iff, List.find?_eq_none, List.mem_reverse, beq_iff_eq,
    List.mem_map, not_exists, not_and]

theorem exists_of_lastValue? {bindings : List Binding} {name : String} {value : Value}
    (last : lastValue? bindings name = some value) :
    ∃ binding ∈ bindings, binding.name = name ∧ binding.value = value := by
  obtain ⟨binding, found, rfl⟩ := Option.map_eq_some_iff.mp last
  have member := List.mem_reverse.mp (List.mem_of_find?_eq_some found)
  exact ⟨binding, member, by simpa using List.find?_some found, rfl⟩

theorem lastValue?_singleton (binding : Binding) (name : String) :
    lastValue? [binding] name = if binding.name = name then some binding.value else none := by
  by_cases same : binding.name = name <;> simp [lastValue?, same]

/-- The last value of a name stands behind all others of that name. -/
theorem lastValue?_eq_some_iff {bindings : List Binding} {name : String} {value : Value} :
    lastValue? bindings name = some value ↔
      ∃ before after, bindings = before ++ ⟨name, value⟩ :: after ∧
        name ∉ after.map Binding.name := by
  constructor
  · intro last
    obtain ⟨binding, found, rfl⟩ := Option.map_eq_some_iff.mp last
    obtain ⟨named, after, before, backwards, apart⟩ := List.find?_eq_some_iff_append.mp found
    obtain rfl : binding.name = name := by simpa using named
    refine ⟨before.reverse, after.reverse, ?_, ?_⟩
    · have forwards := congrArg List.reverse backwards
      simpa only [List.reverse_reverse, List.reverse_append, List.reverse_cons, List.append_assoc,
        List.singleton_append] using forwards
    · simpa using apart
  · rintro ⟨before, after, rfl, apart⟩
    have here : lastValue? [⟨name, value⟩] name = some value := by
      rw [lastValue?_singleton, if_pos rfl]
    rw [← List.singleton_append, lastValue?_append, lastValue?_append,
      lastValue?_eq_none_iff.mpr apart, here, Option.none_or, Option.some_or]

namespace Store

variable {store middle later : Store} {e : FrameId} {first second : List Binding}

/-! ## One definition -/

theorem frame_define_self (made : e < store.frames.size) (symbol : Symbol) (value : Value) :
    (store.define e symbol value).frame e =
      { store.frame e with bindings := (store.frame e).bindings.insert symbol value } := by
  have present := Array.getElem?_eq_getElem made
  simp only [frame, getElem?_frames_define, present, if_pos, Option.map_some, Option.getD_some]

theorem local?_define_self (made : e < store.frames.size) (symbol other : Symbol) (value : Value) :
    (store.define e symbol value).local? e other =
      if other = symbol then some value else store.local? e other := by
  simp only [local?, frame_define_self made, Std.TreeMap.getElem?_insert,
    Std.LawfulEqOrd.compare_eq_iff_eq]
  by_cases same : other = symbol
  · rw [if_pos same, if_pos same.symm]
  · rw [if_neg same, if_neg (Ne.symm same)]

/-- The store with another table in the place of the one in which an environment interns. -/
def withTable (store : Store) (e : FrameId) (table : SymbolTable) : Store :=
  { store with tables := store.tables.setIfInBounds (store.frame e).table table }

theorem withTable_frame (table : SymbolTable) (f : FrameId) :
    (store.withTable e table).frame f = store.frame f := rfl

theorem tableOf_withTable (made : (store.frame e).table < store.tables.size)
    (table : SymbolTable) : (store.withTable e table).tableOf e = table := by
  change (store.tables.setIfInBounds (store.frame e).table table)[(store.frame e).table]?.getD _ = _
  rw [Array.getElem?_setIfInBounds_self_of_lt made, Option.getD_some]

theorem tableOf_define (made : e < store.frames.size) (symbol : Symbol) (value : Value) :
    (store.define e symbol value).tableOf e = store.tableOf e := by
  simp only [tableOf, frame_define_self made]
  rfl

theorem intern_eq_internIn (e : FrameId) (spelling : String) (store : Store) :
    intern e spelling store = internIn (store.frame e).table spelling store := rfl

theorem intern_eq (e : FrameId) (spelling : String) (store : Store) :
    intern e spelling store = (((store.tableOf e).intern spelling).1,
      store.withTable e ((store.tableOf e).intern spelling).2) := rfl

theorem defineNamed_of_ok {name : String} {symbol : Symbol} {table : SymbolTable}
    (answer : (store.tableOf e).intern name = (.ok symbol, table)) (value : Value) :
    defineNamed e name value store =
      (.ok symbol, (store.withTable e table).define e symbol value) := by
  have interned : intern e name store = (.ok symbol, store.withTable e table) := by
    rw [intern_eq, answer]
  exact StoreM.bind_ok _ interned

theorem defineNamed_of_error {name : String} {cause : InternError} {table : SymbolTable}
    (answer : (store.tableOf e).intern name = (.error cause, table)) (value : Value) :
    defineNamed e name value store = (.error cause, store.withTable e table) := by
  have interned : intern e name store = (.error cause, store.withTable e table) := by
    rw [intern_eq, answer]
  exact StoreM.bind_error _ interned

/-! ## Many definitions -/

/-- A frame was made, and it interns in a well-formed table that was made. -/
structure Ready (store : Store) (e : FrameId) : Prop where
  frame_lt : e < store.frames.size
  table_lt : (store.frame e).table < store.tables.size
  valid : (store.tableOf e).WellFormed

theorem WellFormed.ready (valid : store.WellFormed) (made : e < store.frames.size) :
    store.Ready e where
  frame_lt := made
  table_lt := by
    rw [frame_eq made]
    exact valid.table_lt e _ (Array.getElem?_eq_getElem made)
  valid := valid.tableOf e

/-- What a store shows after bindings were defined in a frame, beside the store before. -/
structure Defined (e : FrameId) (bindings : List Binding) (store later : Store) : Prop where
  interns : ∃ log, log.map Prod.fst = bindings.map Binding.name ∧
    (store.tableOf e).Interns log (later.tableOf e)
  local? : ∀ symbol, later.local? e symbol =
    (((later.tableOf e).resolve? symbol).bind (lastValue? bindings)).or (store.local? e symbol)
  table : (later.frame e).table = (store.frame e).table
  parent : (later.frame e).parent = (store.frame e).parent
  frames : ∀ f, f ≠ e → later.frames[f]? = store.frames[f]?
  tables : ∀ id, id ≠ (store.frame e).table → later.tables[id]? = store.tables[id]?
  frames_size : later.frames.size = store.frames.size
  tables_size : later.tables.size = store.tables.size

namespace Defined

theorem refl (store : Store) (e : FrameId) : Defined e [] store store where
  interns := ⟨[], rfl, .nil _⟩
  local? symbol := by
    have nothing : ((store.tableOf e).resolve? symbol).bind (lastValue? []) = none := by
      cases (store.tableOf e).resolve? symbol <;> rfl
    rw [nothing, Option.none_or]
  table := rfl
  parent := rfl
  frames _ _ := rfl
  tables _ _ := rfl
  frames_size := rfl
  tables_size := rfl

theorem wellFormed (defined : Defined e first store later) (valid : (store.tableOf e).WellFormed) :
    (later.tableOf e).WellFormed := by
  obtain ⟨log, _, run⟩ := defined.interns
  exact run.wellFormed valid

/-- Afterwards the table knows what it knew, and the names of the bindings. -/
theorem isSome_get?_iff (defined : Defined e first store later) (spelling : String) :
    ((later.tableOf e).get? spelling).isSome ↔
      ((store.tableOf e).get? spelling).isSome ∨ spelling ∈ first.map Binding.name := by
  obtain ⟨log, names, run⟩ := defined.interns
  rw [run.isSome_get?_iff, names]

/-- Later definitions under a name win over earlier ones. -/
theorem append (left : Defined e first store middle) (right : Defined e second middle later)
    (valid : (store.tableOf e).WellFormed) : Defined e (first ++ second) store later where
  interns := by
    obtain ⟨logLeft, namesLeft, runLeft⟩ := left.interns
    obtain ⟨logRight, namesRight, runRight⟩ := right.interns
    exact ⟨logLeft ++ logRight, by rw [List.map_append, List.map_append, namesLeft, namesRight],
      runLeft.append runRight⟩
  local? symbol := by
    have validMiddle := left.wellFormed valid
    have validLater := right.wellFormed validMiddle
    obtain ⟨_, _, runRight⟩ := right.interns
    rw [right.local?, left.local?]
    cases read : (middle.tableOf e).resolve? symbol with
    | some spelling =>
      have again := runRight.extension.resolve? validMiddle validLater read
      simp only [again, Option.bind_some, lastValue?_append, Option.or_assoc]
    | none =>
      cases fresh : (later.tableOf e).resolve? symbol with
      | none => simp only [Option.bind_none, Option.none_or]
      | some spelling =>
        -- A symbol that is new in the second part spells a name that the first part lacks.
        have unknown := runRight.extension.get?_eq_none validMiddle validLater read fresh
        have absent : lastValue? first spelling = none := by
          rw [lastValue?_eq_none_iff]
          intro member
          have known := (left.isSome_get?_iff spelling).mpr (.inr member)
          rw [unknown] at known
          cases known
        simp only [Option.bind_some, Option.bind_none, lastValue?_append, absent, Option.or_none,
          Option.none_or]
  table := right.table.trans left.table
  parent := right.parent.trans left.parent
  frames f other := (right.frames f other).trans (left.frames f other)
  tables id other := (right.tables id (left.table ▸ other)).trans (left.tables id other)
  frames_size := right.frames_size.trans left.frames_size
  tables_size := right.tables_size.trans left.tables_size

theorem ready (defined : Defined e first store later) (ready : store.Ready e) : later.Ready e where
  frame_lt := defined.frames_size ▸ ready.frame_lt
  table_lt := by
    rw [defined.table, defined.tables_size]
    exact ready.table_lt
  valid := defined.wellFormed ready.valid

private theorem made (ready : store.Ready e) (table : SymbolTable) :
    e < (store.withTable e table).frames.size :=
  ready.frame_lt

/-- One name that is interned is defined. -/
theorem single (ready : store.Ready e) {binding : Binding} {symbol : Symbol} {table : SymbolTable}
    (answer : (store.tableOf e).intern binding.name = (.ok symbol, table)) :
    Defined e [binding] store ((store.withTable e table).define e symbol binding.value) where
  interns := by
    refine ⟨[(binding.name, symbol)], rfl, .cons answer ?_⟩
    rw [tableOf_define (made ready table), tableOf_withTable ready.table_lt]
    exact .nil table
  local? other := by
    have valid : table.WellFormed := by
      have kept := ready.valid.intern binding.name
      rwa [answer] at kept
    rw [tableOf_define (made ready table), tableOf_withTable ready.table_lt,
      local?_define_self (made ready table)]
    have named : table.get? binding.name = some symbol := by
      rw [SymbolTable.get?_of_intern answer, if_pos rfl]
    by_cases same : other = symbol
    · subst same
      rw [valid.get?_eq_some_iff.mp named, Option.bind_some, lastValue?_singleton, if_pos rfl,
        if_pos rfl, Option.some_or]
    · have nothing : (table.resolve? other).bind (lastValue? [binding]) = none := by
        cases read : table.resolve? other with
        | none => rfl
        | some spelling =>
          have apart : binding.name ≠ spelling := by
            rintro rfl
            exact same (Option.some.inj ((valid.get?_eq_some_iff.mpr read).symm.trans named))
          rw [Option.bind_some, lastValue?_singleton, if_neg apart]
      rw [nothing, if_neg same, Option.none_or]
      rfl
  table := by rw [frame_define_self (made ready table), withTable_frame]
  parent := by rw [frame_define_self (made ready table), withTable_frame]
  frames f apart := by rw [getElem?_frames_define, if_neg (Ne.symm apart)]; rfl
  tables id apart := Array.getElem?_setIfInBounds_ne (Ne.symm apart)
  frames_size := Array.size_modify
  tables_size := Array.size_setIfInBounds

end Defined

theorem defineAll_cons_of_ok {binding : Binding} {symbol : Symbol} {table : SymbolTable}
    (answer : (store.tableOf e).intern binding.name = (.ok symbol, table)) (rest : List Binding) :
    defineAll e (binding :: rest) store =
      defineAll e rest ((store.withTable e table).define e symbol binding.value) := by
  have step := StoreM.bind_ok (fun _ => pure ()) (defineNamed_of_ok answer binding.value)
  exact StoreM.bind_ok (fun _ => defineAll e rest) step

theorem defineAll_cons_of_error {binding : Binding} {cause : InternError} {table : SymbolTable}
    (answer : (store.tableOf e).intern binding.name = (.error cause, table)) (rest : List Binding) :
    defineAll e (binding :: rest) store = (.error cause, store.withTable e table) := by
  have step := StoreM.bind_error (fun _ => pure ()) (defineNamed_of_error answer binding.value)
  exact StoreM.bind_error (fun _ => defineAll e rest) step

/-- If the run does not end early, the bindings are defined. -/
theorem defined_of_defineAll {bindings : List Binding} (ready : store.Ready e)
    (run : defineAll e bindings store = (.ok (), later)) : Defined e bindings store later := by
  induction bindings generalizing store with
  | nil =>
    cases run
    exact .refl _ e
  | cons binding rest ih =>
    cases answer : (store.tableOf e).intern binding.name with
    | mk result table =>
      cases result with
      | error cause =>
        rw [defineAll_cons_of_error answer] at run
        cases run
      | ok symbol =>
        rw [defineAll_cons_of_ok answer] at run
        have head := Defined.single ready answer
        exact head.append (ih (head.ready ready) run) ready.valid

/-- The run does not end early if one table can hold all that is known and all names. -/
theorem defineAll_of_covers {bindings : List Binding} {wide : SymbolTable} (ready : store.Ready e)
    (valid : wide.WellFormed)
    (covers : ∀ spelling, ((store.tableOf e).get? spelling).isSome → (wide.get? spelling).isSome)
    (names : ∀ binding ∈ bindings, (wide.get? binding.name).isSome) :
    ∃ later, defineAll e bindings store = (.ok (), later) := by
  induction bindings generalizing store with
  | nil => exact ⟨store, rfl⟩
  | cons binding rest ih =>
    obtain ⟨named, names⟩ := List.forall_mem_cons.mp names
    obtain ⟨symbol, table, answer⟩ := ready.valid.intern_of_covers valid covers named
    rw [defineAll_cons_of_ok answer]
    have head := Defined.single ready answer
    refine ih (head.ready ready) (fun spelling known => ?_) names
    rcases (head.isSome_get?_iff spelling).mp known with old | new
    · exact covers spelling old
    · rw [List.map_singleton, List.mem_singleton] at new
      exact new ▸ named

namespace Defined

/-- The table has interned the names in order. -/
theorem tableOf_eq (defined : Defined e first store later) :
    later.tableOf e = (store.tableOf e).internAll (first.map Binding.name) := by
  obtain ⟨log, names, run⟩ := defined.interns
  rw [← names, run.internAll_eq]

/-! ## The same definitions again -/

variable {last : Store}

theorem exists_again (defined : Defined e first store later) (ready : store.Ready e) :
    ∃ last, defineAll e first later = (.ok (), last) :=
  defineAll_of_covers (defined.ready ready) (defined.wellFormed ready.valid) (fun _ known => known)
    fun _ member => (defined.isSome_get?_iff _).mpr (.inr (List.mem_map_of_mem member))

variable (defined : Defined e first store later) (again : Defined e first later last)

include defined again

/-- The names are known by then, -/
theorem tableOf_again : last.tableOf e = later.tableOf e := by
  rw [again.tableOf_eq]
  apply SymbolTable.internAll_of_known
  intro spelling member
  exact (defined.isSome_get?_iff spelling).mpr (.inr member)

/-- and have the values that they are given. -/
theorem local?_again (f : FrameId) (symbol : Symbol) :
    last.local? f symbol = later.local? f symbol := by
  by_cases same : f = e
  · subst same
    rw [again.local?, defined.tableOf_again again, defined.local?, ← Option.or_assoc, Option.or_self]
  · unfold Store.local? frame
    rw [again.frames f same]

end Defined

/-- A definition by name is a run of changes, also where the name is not interned. -/
theorem changes_defineNamed (ready : store.Ready e) (name : String) (value : Value) :
    Changes store (defineNamed e name value store).2 := by
  have interned := Change.intern ready.table_lt name
  rw [← intern_eq_internIn, intern_eq] at interned
  cases answer : (store.tableOf e).intern name with
  | mk result table =>
    rw [answer] at interned
    cases result with
    | error cause =>
      rw [defineNamed_of_error answer]
      exact .single interned
    | ok symbol =>
      rw [defineNamed_of_ok answer]
      have bound := @Change.define (store.withTable e table) e ready.frame_lt symbol value
      exact .tail (.single interned) bound

/-- Definitions are changes of the store, also where the run ends early. -/
theorem changes_defineAll (bindings : List Binding) (ready : store.Ready e) :
    Changes store (defineAll e bindings store).2 := by
  induction bindings generalizing store with
  | nil => exact .refl
  | cons binding rest ih =>
    have first := changes_defineNamed ready binding.name binding.value
    cases answer : (store.tableOf e).intern binding.name with
    | mk result table =>
      cases result with
      | error cause =>
        rw [defineNamed_of_error answer] at first
        rw [defineAll_cons_of_error answer]
        exact first
      | ok symbol =>
        rw [defineNamed_of_ok answer] at first
        rw [defineAll_cons_of_ok answer]
        exact first.trans (ih ((Defined.single ready answer).ready ready))

end Store

end SchemeBase
