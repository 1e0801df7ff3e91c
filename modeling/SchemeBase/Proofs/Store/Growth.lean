import SchemeBase.Proofs.Store.Definition

/-! # Growth of symbol tables

Interning and allocation leave every frame alone, and tables only gain spellings by them. So a
spelling keeps its symbol, and a symbol its value in an environment, whatever is interned in
between. Which spellings may be interned is said by a relation, so that a run can also say where the
spellings come from that it adds.
-/

namespace SchemeBase.Store

variable {allowed wider : TableId → String → Prop} {store middle later : Store} {id : TableId}
  {e : FrameId} {text : String} {symbol : Symbol}

/-- A spelling that is allowed is interned, or numbers of allocations are taken. -/
inductive Growth (allowed : TableId → String → Prop) : Store → Store → Prop
  | intern {store : Store} {id : TableId} {text : String} (may : allowed id text) :
      Growth allowed store (internIn id text store).2
  | allocate (store : Store) (count : Nat) : Growth allowed store (allocate count store).2

/-- Any number of such steps, one after another. -/
abbrev Grown (allowed : TableId → String → Prop) : Store → Store → Prop :=
  Relation.ReflTransGen (Growth allowed)

/-- Every spelling is allowed in every table. -/
abbrev anySpelling : TableId → String → Prop := fun _ _ => True

/-! ## Interning, seen from the store -/

theorem table_internIn_self (made : id < store.tables.size) (text : String) :
    (internIn id text store).2.table id = ((store.table id).intern text).2 := by
  rw [internIn_eq, table, Array.getElem?_setIfInBounds_self_of_lt made, Option.getD_some]

/-- A table that was never made is not made by interning in it. -/
theorem internIn_of_le (missing : store.tables.size ≤ id) (text : String) :
    (internIn id text store).2 = store := by
  rw [internIn_eq, Array.setIfInBounds_eq_of_size_le missing]

/-- Interning touches no table but its own. -/
theorem table_internIn (id other : TableId) (text : String) (store : Store) :
    (internIn id text store).2.table other = store.table other ∨
      id = other ∧ (internIn id text store).2.table other = ((store.table other).intern text).2 := by
  by_cases same : id = other
  · subst same
    rcases Nat.lt_or_ge id store.tables.size with made | missing
    · exact .inr ⟨rfl, table_internIn_self made text⟩
    · rw [internIn_of_le missing]
      exact .inl rfl
  · left
    rw [internIn_eq, table, Array.getElem?_setIfInBounds_ne same, table]

/-- Interning does nothing to the store where it does nothing to the table. -/
theorem internIn_of_intern_eq {answer : Except InternError Symbol}
    (same : (store.table id).intern text = (answer, store.table id)) :
    internIn id text store = (answer, store) := by
  rcases Nat.lt_or_ge id store.tables.size with made | missing
  · have read : store.tables[id] = store.table id := by
      rw [table, Array.getElem?_eq_getElem made, Option.getD_some]
    rw [internIn_eq, same, ← read, Array.setIfInBounds, dif_pos made, Array.set_getElem_self]
  · rw [← Prod.eta (internIn id text store), internIn_of_le missing, internIn_eq, same]

/-- A known spelling is answered with its symbol, and nothing happens. -/
theorem internIn_of_get? (found : (store.table id).get? text = some symbol) :
    internIn id text store = (.ok symbol, store) :=
  internIn_of_intern_eq (SymbolTable.intern_of_get? found)

/-- Where interning is refused, nothing happens either. -/
theorem internIn_of_error {cause : InternError}
    (refused : (internIn id text store).1 = .error cause) :
    internIn id text store = (.error cause, store) := by
  have failure : ((store.table id).intern text).1 = .error cause := refused
  obtain ⟨_, _, run⟩ | ⟨_, _, run⟩ | ⟨_, _, run⟩ := (store.table id).intern_cases text <;>
    rw [run] at failure <;> cases failure
  exact internIn_of_intern_eq run

/-- The symbol that interning answers is the symbol of the spelling from then on. -/
theorem get?_of_internIn (made : id < store.tables.size)
    (success : (internIn id text store).1 = .ok symbol) :
    ((internIn id text store).2.table id).get? text = some symbol := by
  rw [table_internIn_self made]
  have answer : (store.table id).intern text = (.ok symbol, ((store.table id).intern text).2) :=
    Prod.ext success rfl
  rw [SymbolTable.get?_of_intern answer, if_pos rfl]

theorem table_createTable_of_lt (made : id < store.tables.size) :
    (createTable store).2.table id = store.table id := by
  simp only [createTable_eq, table, Array.getElem?_push_lt made, Array.getElem?_eq_getElem made]

/-- A table is never taken away, -/
theorem Change.lt_size_tables (change : Change store later) (made : id < store.tables.size) :
    id < later.tables.size := by
  cases change with
  | createTable =>
    rw [createTable_eq, Array.size_push]
    exact Nat.lt_succ_of_lt made
  | intern => rwa [internIn_eq, Array.size_setIfInBounds]
  | _ => exact made

/-- and nothing is taken from it. -/
theorem Change.extends_table (change : Change store later) (made : id < store.tables.size) :
    (store.table id).Extends (later.table id) := by
  cases change with
  | createTable =>
    rw [table_createTable_of_lt made]
    exact .refl _
  | @intern other _ spelling =>
    obtain same | ⟨_, same⟩ := table_internIn other id spelling store <;> rw [same]
    · exact .refl _
    · exact (store.table id).extends_intern spelling
  | _ => exact .refl _

/-! ## What growth keeps -/

/-- What a store shows after it has gained allowed spellings only. -/
structure Gains (allowed : TableId → String → Prop) (store later : Store) : Prop where
  frames : later.frames = store.frames
  size : later.tables.size = store.tables.size
  extension : ∀ id, (store.table id).Extends (later.table id)
  known : ∀ id text, ((later.table id).get? text).isSome →
    ((store.table id).get? text).isSome ∨ allowed id text
  untouched : ∀ id, (∀ text, ¬ allowed id text) → later.tables[id]? = store.tables[id]?
  wellFormed : store.WellFormed → later.WellFormed

namespace Gains

theorem refl (store : Store) : Gains allowed store store where
  frames := rfl
  size := rfl
  extension _ := .refl _
  known _ _ before := .inl before
  untouched _ _ := rfl
  wellFormed valid := valid

theorem trans (left : Gains allowed store middle) (right : Gains allowed middle later) :
    Gains allowed store later where
  frames := right.frames.trans left.frames
  size := right.size.trans left.size
  extension id := (left.extension id).trans (right.extension id)
  known id text now := by
    rcases right.known id text now with before | may
    · exact left.known id text before
    · exact .inr may
  untouched id nothing := (right.untouched id nothing).trans (left.untouched id nothing)
  wellFormed valid := right.wellFormed (left.wellFormed valid)

theorem internIn (may : allowed id text) : Gains allowed store (internIn id text store).2 where
  frames := rfl
  size := Array.size_setIfInBounds
  extension other := by
    obtain same | ⟨_, same⟩ := table_internIn id other text store <;> rw [same]
    · exact .refl _
    · exact SymbolTable.extends_intern _ _
  known other spelling now := by
    obtain same | ⟨rfl, same⟩ := table_internIn id other text store <;> rw [same] at now
    · exact .inl now
    · refine (SymbolTable.known_of_intern now).imp_right fun new => ?_
      rwa [new]
  untouched other nothing := by
    have apart : id ≠ other := by
      rintro rfl
      exact nothing text may
    exact Array.getElem?_setIfInBounds_ne apart
  wellFormed valid := valid.internIn id text

theorem growth (growth : Growth allowed store later) : Gains allowed store later := by
  cases growth with
  | intern may => exact .internIn may
  | allocate =>
    exact ⟨rfl, rfl, fun _ => .refl _, fun _ _ before => .inl before, fun _ _ => rfl,
      fun valid => ⟨valid.tables, valid.table_lt, valid.parent⟩⟩

/-- Where nothing may be interned, the tables are as they were. -/
theorem tables_eq (gains : Gains allowed store later) (nothing : ∀ id text, ¬ allowed id text) :
    later.tables = store.tables :=
  Array.ext_getElem? fun id => gains.untouched id (nothing id)

/-! ### Environments -/

theorem frame (gains : Gains allowed store later) (e : FrameId) : later.frame e = store.frame e := by
  rw [Store.frame, gains.frames, Store.frame]

theorem local? (gains : Gains allowed store later) (e : FrameId) (symbol : Symbol) :
    later.local? e symbol = store.local? e symbol := by
  rw [Store.local?, gains.frame, Store.local?]

theorem chain (gains : Gains allowed store later) (e : FrameId) : later.chain e = store.chain e :=
  chain_congr fun f _ => by rw [gains.frame]

theorem lookup? (gains : Gains allowed store later) (e : FrameId) (symbol : Symbol) :
    later.lookup? e symbol = store.lookup? e symbol := by
  simp only [Store.lookup?, gains.chain, gains.local?]

theorem extension_tableOf (gains : Gains allowed store later) (e : FrameId) :
    (store.tableOf e).Extends (later.tableOf e) := by
  rw [tableOf, tableOf, gains.frame]
  exact gains.extension _

end Gains

namespace Grown

/-- A run of growth gains allowed spellings and nothing else. -/
theorem gains (run : Grown allowed store later) : Gains allowed store later := by
  induction run with
  | refl => exact .refl store
  | tail _ step ih => exact ih.trans (.growth step)

theorem mono (run : Grown allowed store later) (weaker : ∀ id text, allowed id text → wider id text) :
    Grown wider store later := by
  refine Relation.ReflTransGen.mono (fun _ _ step => ?_) _ _ run
  cases step with
  | intern may => exact .intern (weaker _ _ may)
  | allocate count => exact .allocate _ count

end Grown

end SchemeBase.Store
