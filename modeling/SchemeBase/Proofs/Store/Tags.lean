import SchemeBase.Apply
import SchemeBase.Proofs.Store.Ownership
import SchemeBase.Proofs.Symbol.Room

/-! # Tags of symbol tables

Tags are bytes and are drawn in turn, so two tables share a tag just when their draws are a multiple
of 256 apart. A handle carries the tag of the table that issued it, and a table checks no more than
that before it looks into the slot. The draws alone therefore decide whether a table looks at a handle
of another one at all, and among tables of 256 consecutive draws none does.
-/

namespace SchemeBase

namespace SymbolTable

variable {table : SymbolTable} {spelling : String} {symbol : Symbol}

/-- A handle carries the tag of the table that issued it. -/
theorem tag_of_intern (success : (table.intern spelling).1 = .ok symbol) :
    symbol.tag = table.tag := by
  obtain ⟨known, found, run⟩ | ⟨_, _, run⟩ | ⟨_, _, run⟩ := table.intern_cases spelling <;>
    rw [run] at success <;> cases success
  · obtain ⟨slot, _, rfl⟩ := get?_eq_some_iff_slot.mp found
    exact Symbol.tag_ofParts _ _ _
  · exact Symbol.tag_ofParts _ _ _

theorem tag_internAll (table : SymbolTable) (spellings : List String) :
    (table.internAll spellings).tag = table.tag := by
  induction spellings generalizing table with
  | nil => rfl
  | cons spelling rest ih => exact (ih _).trans (table.extends_intern spelling).tag_eq

@[simp] theorem tag_create (tag : UInt8) : (create tag).tag = tag :=
  tag_internAll _ _

end SymbolTable

namespace Store

variable {store later : Store} {id a b : TableId} {e : FrameId} {symbol : Symbol}
  {draws i j : Nat} {origins : List Nat}

/-! ## Tables keep their tags -/

theorem table_createTable_self (store : Store) :
    (createTable store).2.table store.tables.size = .create store.nextTag := by
  simp only [createTable_eq, table, Array.getElem?_push_size, Option.getD_some]

theorem Change.tag_table (change : Change store later) (made : id < store.tables.size) :
    id < later.tables.size ∧ (later.table id).tag = (store.table id).tag :=
  ⟨change.lt_size_tables made, (change.extends_table made).tag_eq⟩

theorem Changes.tag_table (run : Changes store later) (made : id < store.tables.size) :
    id < later.tables.size ∧ (later.table id).tag = (store.table id).tag := by
  induction run with
  | refl => exact ⟨made, rfl⟩
  | tail _ change ih =>
    obtain ⟨kept, same⟩ := ih
    obtain ⟨keptNow, sameNow⟩ := change.tag_table kept
    exact ⟨keptNow, sameNow.trans same⟩

/-- A change that draws no tag makes no table. -/
theorem Change.size_tables (change : Change store later) (kept : later.nextTag = store.nextTag) :
    later.tables.size = store.tables.size := by
  cases change with
  | createTable =>
    have grown : store.nextTag + 1 = store.nextTag := kept
    have := congrArg UInt8.toNat grown
    simp only [UInt8.toNat_add, UInt8.toNat_one] at this
    omega
  | intern => rw [internIn_eq, Array.size_setIfInBounds]
  | _ => rfl

/-! ## Numbering the draws -/

/-- A run from the empty store in which `draws` tags are drawn. The draws are numbered from zero, and
`origins` has the number of the draw that each table took. -/
inductive Drawn : Nat → List Nat → Store → Prop
  | start : Drawn 0 [] {}
  | drawTag {draws : Nat} {origins : List Nat} {store : Store} :
      Drawn draws origins store → Drawn (draws + 1) origins (drawTag store).2
  | createTable {draws : Nat} {origins : List Nat} {store : Store} :
      Drawn draws origins store → Drawn (draws + 1) (origins ++ [draws]) (createTable store).2
  | other {draws : Nat} {origins : List Nat} {store later : Store} :
      Drawn draws origins store → Change store later → later.nextTag = store.nextTag →
      Drawn draws origins later

theorem Drawn.intern (run : Drawn draws origins store) (made : id < store.tables.size)
    (spelling : String) : Drawn draws origins (internIn id spelling store).2 :=
  run.other (.intern made spelling) rfl

/-- The runs with numbered draws are all runs. -/
theorem reachable_iff_exists_drawn :
    store.Reachable ↔ ∃ draws origins, Drawn draws origins store := by
  constructor
  · intro reachable
    induction reachable with
    | refl => exact ⟨0, [], .start⟩
    | tail _ change ih =>
      obtain ⟨draws, origins, run⟩ := ih
      cases change with
      | drawTag => exact ⟨_, _, run.drawTag⟩
      | createTable => exact ⟨_, _, run.createTable⟩
      | intern made spelling => exact ⟨_, _, run.intern made spelling⟩
      | allocate count => exact ⟨_, _, run.other (.allocate _ count) rfl⟩
      | globalIn made => exact ⟨_, _, run.other (.globalIn made) rfl⟩
      | child made => exact ⟨_, _, run.other (.child made) rfl⟩
      | define made symbol value => exact ⟨_, _, run.other (.define made symbol value) rfl⟩
  · rintro ⟨draws, origins, run⟩
    induction run with
    | start => exact .refl
    | drawTag _ ih => exact ih.tail (.drawTag _)
    | createTable _ ih => exact ih.tail (.createTable _)
    | other _ change _ ih => exact ih.tail change

/-- What the draws of a run say about its store: the next tag is that of the next draw, and each table
has the tag of its own draw. -/
structure Numbered (draws : Nat) (origins : List Nat) (store : Store) : Prop where
  next : store.nextTag = UInt8.ofNat draws
  size : store.tables.size = origins.length
  tag : ∀ (id : TableId) (i : Nat), origins[id]? = some i →
    (store.table id).tag = UInt8.ofNat i

theorem Numbered.lt_size (numbered : Numbered draws origins store) (origin : origins[id]? = some i) :
    id < store.tables.size := by
  rw [numbered.size]
  exact (List.getElem?_eq_some_iff.mp origin).1

theorem Drawn.numbered (run : Drawn draws origins store) : Numbered draws origins store := by
  induction run with
  | start => exact ⟨rfl, rfl, fun id i origin => by cases origin⟩
  | @drawTag draws origins store _ ih =>
    refine ⟨?_, ih.size, ih.tag⟩
    change store.nextTag + 1 = _
    rw [ih.next, UInt8.ofNat_add]
    rfl
  | @createTable draws origins store _ ih =>
    constructor
    · change store.nextTag + 1 = _
      rw [ih.next, UInt8.ofNat_add]
      rfl
    · rw [createTable_eq, Array.size_push, ih.size, List.length_append, List.length_singleton]
    · intro id i origin
      rcases Nat.lt_trichotomy id origins.length with old | rfl | beyond
      · rw [List.getElem?_append_left old] at origin
        rw [table_createTable_of_lt (ih.lt_size origin)]
        exact ih.tag id i origin
      · rw [List.getElem?_concat_length] at origin
        cases origin
        rw [← ih.size, table_createTable_self, SymbolTable.tag_create, ih.next]
      · have bound := (List.getElem?_eq_some_iff.mp origin).1
        rw [List.length_append, List.length_singleton] at bound
        omega
  | other _ change kept ih =>
    refine ⟨kept.trans ih.next, (change.size_tables kept).trans ih.size, fun id i origin => ?_⟩
    rw [(change.tag_table (ih.lt_size origin)).2]
    exact ih.tag id i origin

/-- Two tables share a tag just when their draws are a multiple of 256 apart. -/
theorem Numbered.tag_eq_iff (numbered : Numbered draws origins store) (first : origins[a]? = some i)
    (second : origins[b]? = some j) :
    (store.table a).tag = (store.table b).tag ↔ i % 256 = j % 256 := by
  rw [numbered.tag a i first, numbered.tag b j second, ← UInt8.toNat_inj, UInt8.toNat_ofNat',
    UInt8.toNat_ofNat']

/-- Tags may be drawn without tables for them. -/
theorem Drawn.drawTags (run : Drawn draws origins store) (count : Nat) :
    Drawn (draws + count) origins
      { store with nextTag := store.nextTag + UInt8.ofNat count } := by
  induction count with
  | zero => simpa using run
  | succ count ih =>
    rw [UInt8.ofNat_add, ← UInt8.add_assoc]
    exact ih.drawTag

/-! ## Handles in other tables -/

/-- The table issued the handle, at the present or at an earlier state of the store. -/
def Minted (store : Store) (id : TableId) (symbol : Symbol) : Prop :=
  ∃ earlier spelling, Changes earlier store ∧ id < earlier.tables.size ∧
    (internIn id spelling earlier).1 = .ok symbol

theorem Minted.tag_eq (minted : store.Minted id symbol) : symbol.tag = (store.table id).tag := by
  obtain ⟨earlier, spelling, run, made, success⟩ := minted
  rw [internIn_eq] at success
  rw [SymbolTable.tag_of_intern success, (run.tag_table made).2]

/-- A table never issued a handle, and shows the handle to be unknown wherever it is asked for it. -/
structure Foreign (store : Store) (id : TableId) (symbol : Symbol) : Prop where
  not_minted : ¬ store.Minted id symbol
  resolve? : (store.table id).resolve? symbol = none
  spelling : (store.table id).spelling symbol = symbol.placeholder
  /-- Under an executor that interns in the table, the symbol has no text. -/
  toText : ∀ {σ : Type} (executor : Executor σ) (state : σ), executor.table = id →
    executor.apply (.primitive (.builtin (.symbol .toText))) [.symbol symbol] ⟨store, state⟩ =
      (.error (.foreignSymbol "symbol->string" symbol), ⟨store, state⟩)
  /-- An environment whose frames bind only symbols of the table neither finds the symbol nor assigns
  to it. -/
  unbound : ∀ e, (store.frame e).table = id →
    (∀ f ∈ store.chain e, ∀ other, (store.local? f other).isSome →
      (store.table id).owns other = true) →
    store.lookup e symbol = .error (.unboundVariable symbol.placeholder) ∧
    ∀ value, assign e symbol value store =
      (.error (.unboundVariable symbol.placeholder), store)

theorem apply_toText_of_unresolved {σ : Type} (executor : Executor σ) (state : σ)
    (unread : (store.table executor.table).resolve? symbol = none) :
    executor.apply (.primitive (.builtin (.symbol .toText))) [.symbol symbol] ⟨store, state⟩ =
      (.error (.foreignSymbol "symbol->string" symbol), ⟨store, state⟩) := by
  have rule : (Builtin.symbol .toText).step? executor.table [.symbol symbol] =
      some (.finish (SymbolPrimitive.spell executor.table symbol)) := rfl
  have refusal : SymbolPrimitive.spell executor.table symbol store =
      (.error (.foreignSymbol "symbol->string" symbol), store) := by
    rw [SymbolPrimitive.spell, StoreM.get_bind, unread]
    rfl
  rw [Executor.apply_builtin rule, Executor.perform, EvalM.ofStore, refusal]

/-- An assignment fails as the lookup of its symbol does, and then changes nothing. -/
theorem assign_of_lookup_error {error : EvalError} (failure : store.lookup e symbol = .error error)
    (value : Value) : assign e symbol value store = (.error error, store) := by
  obtain ⟨_, _, _, found, _⟩ | ⟨unfound, run⟩ := store.assign_cases e symbol value
  · cases failure.symm.trans found
  · cases failure.symm.trans unfound
    exact run

theorem foreign_of_tag_ne (apart : symbol.tag ≠ (store.table id).tag) : store.Foreign id symbol where
  not_minted minted := apart minted.tag_eq
  resolve? := if_neg apart
  spelling := SymbolTable.spelling_of_unresolved (if_neg apart)
  toText := by
    rintro σ executor state rfl
    exact apply_toText_of_unresolved executor state (if_neg apart)
  unbound := by
    rintro e rfl binds
    have failure := lookup_of_unresolved (if_neg apart) binds
    exact ⟨failure, assign_of_lookup_error failure⟩

/-- A handle is resolved by another table just when the draws of both are a multiple of 256 apart and
the table has a spelling in that slot. So among tables of 256 consecutive draws no handle of one is a
handle of another, and each treats the handles of the others as foreign. -/
theorem Drawn.resolve?_minted (run : Drawn draws origins store) (first : origins[a]? = some i)
    (second : origins[b]? = some j) (apart : i ≠ j) (minted : store.Minted a symbol) :
    let table := store.table b
    let spellings := (table.shard symbol.shard).spellings
    (∀ spelling, table.resolve? symbol = some spelling ↔
      i % 256 = j % 256 ∧ spellings[symbol.slot]? = some spelling) ∧
    (table.owns symbol = true ↔ i % 256 = j % 256 ∧ symbol.slot < spellings.size) ∧
    ∀ start, start ≤ i → i < start + 256 → start ≤ j → j < start + 256 → store.Foreign b symbol := by
  intro table spellings
  have shared : symbol.tag = table.tag ↔ i % 256 = j % 256 := by
    rw [minted.tag_eq]
    exact run.numbered.tag_eq_iff first second
  refine ⟨fun spelling => ?_, ?_, fun start lowI highI lowJ highJ => foreign_of_tag_ne ?_⟩
  · rw [SymbolTable.resolve?_eq_some_iff, shared]
  · rw [SymbolTable.owns, SymbolTable.isSome_resolve?_iff, shared]
  · intro same
    have congruent := shared.mp same
    omega

/-- After 256 draws the symbol of one spelling is resolved as another by a table that never had the
first. The table of the next draw does not know it. -/
theorem Drawn.resolve?_minted_around :
    let two := (Store.createTable (Store.createTable {}).2).2
    let around := (Store.createTable { two with nextTag := two.nextTag + 254 }).2
    let other := (internIn 2 "h" around).2
    let store := (internIn 0 "x" other).2
    let x : Symbol := .ofParts 0 8 2
    Drawn 257 [0, 1, 256] store ∧ store.Minted 0 x ∧
      (store.table 2).resolve? x = some "h" ∧ store.Foreign 1 x := by
  intro two around other store x
  have run : Drawn 257 [0, 1, 256] store := by
    have drawn := (Drawn.start.createTable.createTable.drawTags 254).createTable
    exact (drawn.intern (by decide +kernel) "h").intern (by decide +kernel) "x"
  have minted : store.Minted 0 x :=
    ⟨other, "x", .single (.intern (by decide +kernel) "x"), by decide +kernel, by decide +kernel⟩
  refine ⟨run, minted, ?_, ?_⟩
  · exact ((run.resolve?_minted rfl rfl (by decide) minted).1 "h").mpr
      ⟨by decide, by decide +kernel⟩
  · exact (run.resolve?_minted rfl rfl (by decide) minted).2.2 0
      (by decide) (by decide) (by decide) (by decide)

end Store

end SchemeBase
