import Mathlib.Data.Set.Finite.Basic
import SchemeBase.Proofs.Symbol.History
import SchemeBase.Proofs.Symbol.Room

/-! # The capacity of a shard

A shard takes 2²⁰ spellings, as many as its slots can number. Until then it takes every spelling that
lives in it, and from then on it refuses those that are new, before anything is changed. So the slot
that goes into a handle is always one that the handle can name, and handles of different spellings
stay different, however full the table becomes. The limit can be reached in every shard, since
infinitely many spellings begin with the same eight bytes.
-/

namespace SchemeBase.SymbolTable

open SchemeBase.Symbol

variable {table next : SymbolTable} {home : Fin shardCount} {count : Nat} {spelling : String}
  {symbol : Symbol}

/-- Of the spellings that live in a shard, a table knows `count`. -/
def Holds (table : SymbolTable) (home : Fin shardCount) (count : Nat) : Prop :=
  ∃ known : Finset String, known.card = count ∧
    ∀ spelling, spelling ∈ known ↔ shardOf spelling = home ∧ (table.get? spelling).isSome

/-! ## Spellings without end -/

/-- Only the first eight bytes of a spelling decide where it lives. -/
theorem shardOf_append {start : String} (long : start.toByteArray.size = 8) (rest : String) :
    shardOf (start ++ rest) = shardOf start := by
  have bytes : (start ++ rest).toByteArray.extract 0 8 = start.toByteArray.extract 0 8 := by
    rw [String.toByteArray_append, ByteArray.extract_append_eq_left long.symm, ← long,
      ByteArray.extract_zero_size]
  simp only [shardOf, spellingHash, bytes]

/-- Eight bytes that lead to a shard. -/
private def lead (home : Fin shardCount) : String :=
  "0000000" ++ String.singleton (Char.ofNat (48 + home.val))

private theorem shardOf_lead (home : Fin shardCount) :
    (lead home).toByteArray.size = 8 ∧ shardOf (lead home) = home := by
  revert home
  decide +kernel

theorem infinite_shard (home : Fin shardCount) : {spelling | shardOf spelling = home}.Infinite := by
  obtain ⟨long, leads⟩ := shardOf_lead home
  refine Set.infinite_of_injective_forall_mem (f := fun rest => lead home ++ String.ofList rest)
    (fun first second same => ?_) fun rest => ?_
  · exact String.ofList_injective ((String.append_right_inj _).mp same)
  · exact (shardOf_append long _).trans leads

/-- Whatever a table knows, there is another spelling for each shard. -/
theorem Holds.exists_new (holds : table.Holds home count) :
    ∃ new, shardOf new = home ∧ table.get? new = none := by
  obtain ⟨known, _, members⟩ := holds
  obtain ⟨new, lives, outside⟩ := (infinite_shard home).exists_notMem_finset known
  refine ⟨new, lives, ?_⟩
  rw [members, not_and] at outside
  exact Option.not_isSome_iff_eq_none.mp (outside lives)

/-! ## Counting the spellings of a shard -/

/-- A slot that is taken counts in its shard and in no other. -/
theorem Holds.push (holds : table.Holds home count) (new : table.get? spelling = none) :
    (table.push spelling).Holds home (if shardOf spelling = home then count + 1 else count) := by
  obtain ⟨known, rfl, members⟩ := holds
  have knows (other : String) : ((table.push spelling).get? other).isSome ↔
      other = spelling ∨ (table.get? other).isSome := by
    rw [get?_push]
    split
    · next same => exact iff_of_true rfl (.inl same)
    · next apart => exact (or_iff_right apart).symm
  by_cases lives : shardOf spelling = home
  · have outside : spelling ∉ known := by
      rw [members, new]
      exact fun inside => Bool.false_ne_true inside.2
    rw [if_pos lives]
    refine ⟨insert spelling known, Finset.card_insert_of_notMem outside, fun other => ?_⟩
    rw [Finset.mem_insert, members, knows, and_or_left]
    refine or_congr_left ⟨?_, And.right⟩
    rintro rfl
    exact ⟨lives, rfl⟩
  · rw [if_neg lives]
    refine ⟨known, rfl, fun other => ?_⟩
    rw [members, knows]
    refine and_congr_right fun there => (or_iff_right ?_).symm
    rintro rfl
    exact lives there

theorem Extends.internAll (growth : table.Extends next) (spellings : List String) :
    table.Extends (next.internAll spellings) := by
  induction spellings generalizing next with
  | nil => exact growth
  | cons spelling rest ih => exact ih (growth.trans (next.extends_intern spelling))

namespace WellFormed

variable (valid : table.WellFormed)

include valid

theorem holds_iff : table.Holds home count ↔ (table.shard home).spellings.size = count := by
  have size (known : Finset String)
      (members : ∀ spelling, spelling ∈ known ↔
        shardOf spelling = home ∧ (table.get? spelling).isSome) :
      known.card = (table.shard home).spellings.size := by
    have same : known = (table.shard home).spellings.toList.toFinset := by
      ext spelling
      rw [members, List.mem_toFinset, Array.mem_toList_iff, valid.mem_spellings_iff]
    rw [same, List.toFinset_card_of_nodup (valid.shards home).nodup, Array.length_toList]
  constructor
  · rintro ⟨known, rfl, members⟩
    exact (size known members).symm
  · rintro rfl
    refine ⟨(table.shard home).spellings.toList.toFinset, size _ fun spelling => ?_, fun spelling => ?_⟩
    all_goals rw [List.mem_toFinset, Array.mem_toList_iff, valid.mem_spellings_iff]

theorem exists_holds (home : Fin shardCount) : ∃ count, table.Holds home count :=
  ⟨_, valid.holds_iff.mpr rfl⟩

theorem holds_le (holds : table.Holds home count) : count ≤ 2 ^ 20 := by
  rw [← valid.holds_iff.mp holds]
  exact (valid.shards home).bounded

/-- A new spelling is refused by a full shard, -/
theorem intern_of_full (new : table.get? spelling = none)
    (full : table.Holds (shardOf spelling) (2 ^ 20)) :
    table.intern spelling = (.error (.shardFull (shardOf spelling) (2 ^ 20)), table) := by
  have size := valid.holds_iff.mp full
  obtain ⟨_, found, _⟩ | ⟨_, room, _⟩ | ⟨_, _, run⟩ := table.intern_cases spelling
  · cases new.symm.trans found
  · rw [size] at room
    exact absurd room (by decide)
  · rw [run, size]

/-- and by any other it is given the slot behind those that are taken. -/
theorem intern_of_room (new : table.get? spelling = none)
    (holds : table.Holds (shardOf spelling) count) (room : count < 2 ^ 20) :
    table.intern spelling =
      (.ok (ofParts table.tag (shardOf spelling) count), table.push spelling) := by
  have size := valid.holds_iff.mp holds
  obtain ⟨_, found, _⟩ | ⟨_, _, run⟩ | ⟨_, full, _⟩ := table.intern_cases spelling
  · cases new.symm.trans found
  · rw [run, size]
  · rw [size] at full
    exact absurd room (Nat.not_lt.mpr full)

theorem exists_intern_error_iff : (∃ cause, (table.intern spelling).1 = .error cause) ↔
    table.get? spelling = none ∧ table.Holds (shardOf spelling) (2 ^ 20) := by
  constructor
  · rintro ⟨cause, failure⟩
    obtain ⟨_, _, run⟩ | ⟨_, _, run⟩ | ⟨new, full, run⟩ := table.intern_cases spelling <;>
      rw [run] at failure <;> cases failure
    exact ⟨new, valid.holds_iff.mpr (Nat.le_antisymm (valid.shards _).bounded full)⟩
  · rintro ⟨new, full⟩
    exact ⟨_, congrArg Prod.fst (valid.intern_of_full new full)⟩

/-- A handle that is issued names the slot of its spelling. -/
theorem exists_slot (found : table.get? spelling = some symbol) :
    ∃ slot ≤ maxSlot, (table.shard (shardOf spelling)).slots[spelling]? = some slot ∧
      (table.shard (shardOf spelling)).spellings[slot]? = some spelling ∧
      symbol = ofParts table.tag (shardOf spelling) slot ∧ symbol.slot = slot := by
  obtain ⟨slot, taken, rfl⟩ := get?_eq_some_iff_slot.mp found
  have read := ((valid.shards _).inverse _ _).mp taken
  have inside := (Array.getElem?_eq_some_iff.mp read).1
  have bound : slot ≤ maxSlot :=
    Nat.le_of_lt_succ (Nat.lt_of_lt_of_le inside (valid.shards _).bounded)
  exact ⟨slot, bound, taken, read, rfl, slot_ofParts_of_le bound⟩

/-- Every shard can be filled. -/
theorem exists_full (home : Fin shardCount) : ∃ more, (table.internAll more).Holds home (2 ^ 20) := by
  obtain ⟨count, holds⟩ := valid.exists_holds home
  induction missing : 2 ^ 20 - count generalizing table count with
  | zero =>
    have bound := valid.holds_le holds
    obtain rfl : count = 2 ^ 20 := Nat.le_antisymm bound (Nat.le_of_sub_eq_zero missing)
    exact ⟨[], holds⟩
  | succ missing ih =>
    obtain ⟨new, rfl, unknown⟩ := holds.exists_new
    have run := valid.intern_of_room unknown holds (Nat.lt_of_sub_eq_succ missing)
    have kept : (table.push new).WellFormed := by
      have kept := valid.intern new
      rwa [run] at kept
    have grown := holds.push unknown
    rw [if_pos rfl] at grown
    obtain ⟨more, full⟩ := ih kept (count + 1) grown (by omega)
    refine ⟨new :: more, ?_⟩
    change ((table.intern new).2.internAll more).Holds _ _
    rwa [run]

end WellFormed

/-! ## Room for several spellings -/

/-- Of several spellings, those that live in a shard and that a table does not know. -/
def newIn (table : SymbolTable) (home : Fin shardCount) (spellings : List String) : Finset String :=
  spellings.toFinset.filter fun spelling => shardOf spelling = home ∧ table.get? spelling = none

/-- No shard overflows with the spellings that are new to a table. -/
def Fits (table : SymbolTable) (spellings : List String) : Prop :=
  ∀ home count, table.Holds home count → count + (table.newIn home spellings).card ≤ 2 ^ 20

theorem mem_newIn_iff {spellings : List String} : spelling ∈ table.newIn home spellings ↔
    spelling ∈ spellings ∧ shardOf spelling = home ∧ table.get? spelling = none := by
  rw [newIn, Finset.mem_filter, List.mem_toFinset]

theorem Holds.unique {other : Nat} (one : table.Holds home count) (again : table.Holds home other) :
    count = other := by
  obtain ⟨known, rfl, members⟩ := one
  obtain ⟨others, rfl, same⟩ := again
  exact congrArg Finset.card (Finset.ext fun spelling => (members spelling).trans (same spelling).symm)

/-- A run adds to a shard the spellings that are new and live there, each once. -/
theorem Interns.holds {log : List (String × Symbol)} (run : table.Interns log next)
    (holds : table.Holds home count) :
    next.Holds home (count + (table.newIn home (log.map Prod.fst)).card) := by
  obtain ⟨known, rfl, members⟩ := holds
  have apart : Disjoint known (table.newIn home (log.map Prod.fst)) := by
    refine Finset.disjoint_left.mpr fun spelling old new => ?_
    have found := ((members spelling).mp old).2
    rw [(mem_newIn_iff.mp new).2.2] at found
    cases found
  refine ⟨known ∪ table.newIn home (log.map Prod.fst), Finset.card_union_of_disjoint apart,
    fun spelling => ?_⟩
  rw [Finset.mem_union, members, mem_newIn_iff, run.isSome_get?_iff]
  cases table.get? spelling <;> simp [and_comm]

theorem Fits.cons (valid : table.WellFormed) {rest : List String}
    (fits : table.Fits (spelling :: rest)) :
    ∃ symbol, table.intern spelling = (.ok symbol, (table.intern spelling).2) ∧
      (table.intern spelling).2.Fits rest := by
  cases known : table.get? spelling with
  | some symbol =>
    rw [intern_of_get? known]
    refine ⟨symbol, rfl, fun home count holds => Nat.le_trans ?_ (fits home count holds)⟩
    refine Nat.add_le_add_left (Finset.card_le_card fun other new => ?_) count
    obtain ⟨member, new⟩ := mem_newIn_iff.mp new
    exact mem_newIn_iff.mpr ⟨List.mem_cons_of_mem _ member, new⟩
  | none =>
    have taken : spelling ∈ table.newIn (shardOf spelling) (spelling :: rest) :=
      mem_newIn_iff.mpr ⟨List.mem_cons_self, rfl, known⟩
    have room (count : Nat) (holds : table.Holds (shardOf spelling) count) : count < 2 ^ 20 := by
      have bound := fits _ count holds
      have pos := Finset.card_pos.mpr ⟨spelling, taken⟩
      omega
    obtain ⟨here, holdsHere⟩ := valid.exists_holds (shardOf spelling)
    rw [valid.intern_of_room known holdsHere (room here holdsHere)]
    refine ⟨_, rfl, fun home count holds => ?_⟩
    obtain ⟨before, holdsBefore⟩ := valid.exists_holds home
    have bound := fits home before holdsBefore
    -- What is still to come is new, and is not the spelling that was just interned.
    have fewer (other : String) (new : other ∈ (table.push spelling).newIn home rest) :
        other ∈ (table.newIn home (spelling :: rest)).erase spelling := by
      obtain ⟨member, lives, new⟩ := mem_newIn_iff.mp new
      rw [get?_push] at new
      split at new
      · cases new
      · next apart =>
        exact Finset.mem_erase.mpr
          ⟨apart, mem_newIn_iff.mpr ⟨List.mem_cons_of_mem _ member, lives, new⟩⟩
    have less := Finset.card_le_card fewer
    have grown := holdsBefore.push known
    by_cases lives : shardOf spelling = home
    · subst lives
      rw [if_pos rfl] at grown
      obtain rfl := holds.unique grown
      have pos := Finset.card_pos.mpr ⟨spelling, taken⟩
      rw [Finset.card_erase_of_mem taken] at less
      change before + 1 + ((table.push spelling).newIn (shardOf spelling) rest).card ≤ 2 ^ 20
      omega
    · rw [if_neg lives] at grown
      obtain rfl := holds.unique grown
      exact Nat.le_trans (Nat.add_le_add_left (Nat.le_trans less (Finset.card_erase_le)) _) bound

/-- Spellings can all be interned, one after another, just where no shard overflows with them. -/
theorem WellFormed.exists_interns_iff (valid : table.WellFormed) {spellings : List String} :
    (∃ log last, log.map Prod.fst = spellings ∧ table.Interns log last) ↔ table.Fits spellings := by
  constructor
  · rintro ⟨log, last, rfl, run⟩ home count holds
    exact (run.wellFormed valid).holds_le (run.holds holds)
  · intro fits
    induction spellings generalizing table with
    | nil => exact ⟨[], table, rfl, .nil table⟩
    | cons spelling rest ih =>
      obtain ⟨symbol, step, fits⟩ := fits.cons valid
      obtain ⟨log, last, rfl, run⟩ := ih (valid.intern spelling) fits
      exact ⟨(spelling, symbol) :: log, last, rfl, .cons step run⟩

/-- No shard overflows while the whole table holds less than one shard can. -/
theorem WellFormed.fits_of_size_le (valid : table.WellFormed) {spellings : List String}
    (few : table.size + spellings.length ≤ Symbol.maxSlot + 1) : table.Fits spellings := by
  obtain ⟨log, names, run⟩ := valid.interns_internAll few
  exact valid.exists_interns_iff.mp ⟨log, _, names, run⟩

/-- Without an overflow, a table grows to one that knows the spellings beside those known before. -/
theorem WellFormed.exists_covers (valid : table.WellFormed) {spellings : List String}
    (room : table.Fits spellings) :
    ∃ wide : SymbolTable, wide.WellFormed ∧
      (∀ spelling, (table.get? spelling).isSome → (wide.get? spelling).isSome) ∧
      ∀ spelling ∈ spellings, (wide.get? spelling).isSome := by
  obtain ⟨log, wide, rfl, run⟩ := valid.exists_interns_iff.mpr room
  have knows := run.isSome_get?_iff
  exact ⟨wide, run.wellFormed valid, fun spelling old => (knows spelling).mpr (.inl old),
    fun spelling new => (knows spelling).mpr (.inr new)⟩

/-! ## Tables as they are reached -/

/-- At every point of the history of a table, refusals included, interning fails just where the
spelling is new and its shard holds 2²⁰ spellings. The error names the shard and the count, and the
table is as it was. A known spelling is answered with its symbol, in a full shard too. No shard holds
more than 2²⁰ spellings, every shard can be brought to hold so many, and one that holds fewer takes each
new spelling that lives in it. The slot of a handle is never beyond the last one, so that the
handle names the slot itself, and handles that are issued at any time are the same just where the
spellings are. -/
theorem intern_within_capacity (tag : UInt8) (history : List String) :
    let table := (create tag).internAll history
    (∀ spelling, (∃ cause, (table.intern spelling).1 = .error cause) ↔
      table.get? spelling = none ∧ table.Holds (shardOf spelling) (2 ^ 20)) ∧
    (∀ spelling, table.get? spelling = none → table.Holds (shardOf spelling) (2 ^ 20) →
      table.intern spelling = (.error (.shardFull (shardOf spelling) (2 ^ 20)), table)) ∧
    (∀ spelling symbol, table.get? spelling = some symbol →
      table.intern spelling = (.ok symbol, table)) ∧
    (∀ home count, table.Holds home count → count ≤ 2 ^ 20 ∧
      (count < 2 ^ 20 → (∃ new, shardOf new = home ∧ table.get? new = none) ∧
        ∀ new, shardOf new = home → table.get? new = none → ∃ symbol later,
          table.intern new = (.ok symbol, later) ∧ later.get? new = some symbol ∧
          later.Holds home (count + 1))) ∧
    (∀ home, ∃ more, (table.internAll more).Holds home (2 ^ 20)) ∧
    (∀ spelling symbol later, table.intern spelling = (.ok symbol, later) →
      ∃ slot ≤ maxSlot, (later.shard (shardOf spelling)).slots[spelling]? = some slot ∧
        (later.shard (shardOf spelling)).spellings[slot]? = some spelling ∧
        symbol = ofParts tag (shardOf spelling) slot ∧ symbol.slot = slot) ∧
    ∀ first second more x y later last, table.intern first = (.ok x, later) →
      (later.internAll more).intern second = (.ok y, last) → (x = y ↔ first = second) := by
  intro table
  have valid : table.WellFormed := (create_wellFormed tag).internAll history
  have tagged : table.tag = tag := (((Extends.refl (bare tag)).internAll _).internAll history).tag_eq
  have after (spelling : String) (symbol : Symbol) (later : SymbolTable)
      (run : table.intern spelling = (.ok symbol, later)) :
      later.WellFormed ∧ later.tag = tag ∧ later.get? spelling = some symbol := by
    have kept := valid.intern spelling
    have growth := table.extends_intern spelling
    rw [run] at kept growth
    exact ⟨kept, growth.tag_eq.trans tagged, by rw [get?_of_intern run, if_pos rfl]⟩
  refine ⟨fun spelling => valid.exists_intern_error_iff, fun spelling => valid.intern_of_full,
    fun spelling symbol => intern_of_get?, fun home count holds => ⟨valid.holds_le holds, fun room => ?_⟩,
    valid.exists_full, fun spelling symbol later run => ?_,
    fun first second more x y later last run again => ?_⟩
  · refine ⟨holds.exists_new, ?_⟩
    rintro new rfl unknown
    have run := valid.intern_of_room unknown holds room
    have grown := holds.push unknown
    rw [if_pos rfl] at grown
    exact ⟨_, _, run, (after new _ _ run).2.2, grown⟩
  · obtain ⟨kept, sameTag, found⟩ := after spelling symbol later run
    rw [← sameTag]
    exact kept.exists_slot found
  · obtain ⟨kept, _, found⟩ := after first x later run
    have keptMore := kept.internAll more
    have foundMore := ((Extends.refl later).internAll more).get? _ _ found
    have keptLast := keptMore.intern second
    rw [again] at keptLast
    have foundFirst : last.get? first = some x := by
      have growth := (later.internAll more).extends_intern second
      rw [again] at growth
      exact growth.get? _ _ foundMore
    have foundSecond : last.get? second = some y := by rw [get?_of_intern again, if_pos rfl]
    constructor
    · rintro rfl
      exact keptLast.get?_inj foundFirst foundSecond
    · rintro rfl
      exact Option.some.inj (foundFirst.symm.trans foundSecond)

/-- In a table with a full shard, a new spelling of that shard is refused, and one that was
known before the shard was filled keeps its symbol. -/
theorem intern_within_capacity_full :
    ∃ (history : List String) (new : String) (symbol : Symbol),
      let table := (create 0).internAll history
      (create 0).intern "lambda" = (.ok symbol, create 0) ∧
      table.Holds (shardOf "lambda") (2 ^ 20) ∧ table.get? new = none ∧
      table.intern new = (.error (.shardFull (shardOf "lambda") (2 ^ 20)), table) ∧
      table.intern "lambda" = (.ok symbol, table) := by
  obtain ⟨symbol, known⟩ : ∃ symbol, (create 0).get? "lambda" = some symbol :=
    Option.isSome_iff_exists.mp (by decide +kernel)
  obtain ⟨history, full⟩ := (create_wellFormed 0).exists_full (shardOf "lambda")
  obtain ⟨new, lives, unknown⟩ := full.exists_new
  obtain ⟨_, refusal, answers, _⟩ := intern_within_capacity 0 history
  have kept := ((Extends.refl (create 0)).internAll history).get? _ _ known
  have refused := refusal new unknown (by rw [lives]; exact full)
  rw [lives] at refused
  exact ⟨history, new, symbol, intern_of_get? known, full, unknown, refused, answers _ _ kept⟩

end SchemeBase.SymbolTable
