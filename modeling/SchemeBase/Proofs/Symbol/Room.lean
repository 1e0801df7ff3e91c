import Mathlib.Data.List.Perm.Subperm
import SchemeBase.Proofs.Symbol.WellFormed

/-! # How much a table holds

The order in which spellings arrive decides which slots they take, but not how many slots of each
shard are taken. So tables that know the same spellings are of one size and resolve the same
symbols, and a table has room for whatever a larger one already holds.
-/

namespace SchemeBase

open SchemeBase.Symbol

/-- No spelling stands in two slots of a shard. -/
theorem Shard.WellFormed.nodup {shard : Shard} {home : Fin shardCount}
    (valid : shard.WellFormed home) : shard.spellings.toList.Nodup := by
  rw [List.nodup_iff_getElem?_ne_getElem?]
  intro i j before bound same
  rw [Array.length_toList] at bound
  rw [Array.getElem?_toList, Array.getElem?_toList] at same
  have read := Array.getElem?_eq_getElem bound
  have slotJ := (valid.inverse _ _).mpr read
  have slotI := (valid.inverse _ _).mpr (same.trans read)
  cases slotI.symm.trans slotJ
  exact Nat.lt_irrefl _ before

namespace SymbolTable

variable {table other : SymbolTable} {spelling : String} {symbol : Symbol}

/-- Which symbols a table resolves depends on how much it holds, not on the order of arrival. -/
theorem isSome_resolve?_iff : (table.resolve? symbol).isSome ↔
    symbol.tag = table.tag ∧ symbol.slot < (table.shard symbol.shard).spellings.size := by
  unfold resolve?
  split
  · next same => simp [same]
  · next apart => simp [apart]

/-- A spelling is known, or its shard has a slot left. -/
def HasRoom (table : SymbolTable) (spelling : String) : Prop :=
  (table.get? spelling).isSome ∨ (table.shard (shardOf spelling)).spellings.size ≤ maxSlot

theorem exists_intern_iff :
    (∃ symbol, (table.intern spelling).1 = .ok symbol) ↔ table.HasRoom spelling := by
  obtain ⟨_, found, run⟩ | ⟨_, room, run⟩ | ⟨new, full, run⟩ := table.intern_cases spelling <;>
    rw [run, HasRoom]
  · exact iff_of_true ⟨_, rfl⟩ (.inl (by rw [found]; rfl))
  · exact iff_of_true ⟨_, rfl⟩ (.inr room)
  · refine iff_of_false (by rintro ⟨_, ⟨⟩⟩) (not_or.mpr ⟨?_, Nat.not_le.mpr full⟩)
    rw [new]
    exact Bool.false_ne_true

namespace WellFormed

/-- The spellings of a shard are the known ones that belong there. -/
theorem mem_spellings_iff (valid : table.WellFormed) {home : Fin shardCount} :
    spelling ∈ (table.shard home).spellings ↔
      shardOf spelling = home ∧ (table.get? spelling).isSome := by
  constructor
  · intro member
    have belongs := (valid.shards home).home spelling member
    subst belongs
    obtain ⟨slot, read⟩ := Array.getElem?_of_mem member
    have found := ((valid.shards _).inverse _ _).mpr read
    exact ⟨rfl, by rw [get?, found]; rfl⟩
  · rintro ⟨rfl, known⟩
    obtain ⟨symbol, found⟩ := Option.isSome_iff_exists.mp known
    obtain ⟨slot, read, _⟩ := get?_eq_some_iff_slot.mp found
    exact Array.mem_of_getElem? (((valid.shards _).inverse _ _).mp read)

/-- A table that knows more holds as much in every shard. -/
theorem spellings_size_le (valid : table.WellFormed) (wide : other.WellFormed)
    (covers : ∀ spelling, (table.get? spelling).isSome → (other.get? spelling).isSome)
    (home : Fin shardCount) :
    (table.shard home).spellings.size ≤ (other.shard home).spellings.size := by
  rw [← Array.length_toList, ← Array.length_toList]
  apply List.Subperm.length_le
  apply (valid.shards home).nodup.subperm
  intro spelling member
  rw [Array.mem_toList_iff, valid.mem_spellings_iff] at member
  rw [Array.mem_toList_iff, wide.mem_spellings_iff]
  exact ⟨member.1, covers spelling member.2⟩

/-- There is room for a spelling that a table with more spellings knows. -/
theorem room_of_covers (valid : table.WellFormed) (wide : other.WellFormed)
    (covers : ∀ spelling, (table.get? spelling).isSome → (other.get? spelling).isSome)
    (new : table.get? spelling = none) (known : (other.get? spelling).isSome) :
    (table.shard (shardOf spelling)).spellings.size ≤ maxSlot := by
  have included : spelling :: (table.shard (shardOf spelling)).spellings.toList ⊆
      (other.shard (shardOf spelling)).spellings.toList := by
    intro one member
    rw [Array.mem_toList_iff, wide.mem_spellings_iff]
    rcases List.mem_cons.mp member with rfl | member
    · exact ⟨rfl, known⟩
    · rw [Array.mem_toList_iff, valid.mem_spellings_iff] at member
      exact ⟨member.1, covers one member.2⟩
  have distinct : (spelling :: (table.shard (shardOf spelling)).spellings.toList).Nodup := by
    refine List.nodup_cons.mpr ⟨fun member => ?_, (valid.shards _).nodup⟩
    rw [Array.mem_toList_iff, valid.mem_spellings_iff, new] at member
    cases member.2
  have more := (distinct.subperm included).length_le
  have bounded := (wide.shards (shardOf spelling)).bounded
  rw [List.length_cons, Array.length_toList, Array.length_toList] at more
  omega

/-- A spelling that a table with more spellings knows is interned. -/
theorem intern_of_covers (valid : table.WellFormed) (wide : other.WellFormed)
    (covers : ∀ spelling, (table.get? spelling).isSome → (other.get? spelling).isSome)
    (known : (other.get? spelling).isSome) :
    ∃ symbol next, table.intern spelling = (.ok symbol, next) := by
  obtain ⟨symbol, _, run⟩ | ⟨_, _, run⟩ | ⟨new, full, _⟩ := table.intern_cases spelling
  · exact ⟨symbol, _, run⟩
  · exact ⟨_, _, run⟩
  · exact absurd (valid.room_of_covers wide covers new known) (Nat.not_le.mpr full)

variable (same : ∀ spelling, (table.get? spelling).isSome ↔ (other.get? spelling).isSome)

include same

/-- Tables that know the same spellings hold as many in every shard, -/
theorem spellings_size_eq (valid : table.WellFormed) (again : other.WellFormed)
    (home : Fin shardCount) :
    (table.shard home).spellings.size = (other.shard home).spellings.size :=
  Nat.le_antisymm (valid.spellings_size_le again (fun _ => (same _).mp) home)
    (again.spellings_size_le valid (fun _ => (same _).mpr) home)

/-- they are of one size, -/
theorem size_eq_of_knows (valid : table.WellFormed) (again : other.WellFormed) :
    table.size = other.size := by
  rw [valid.size_eq, again.size_eq]
  exact Finset.sum_congr rfl fun home _ => valid.spellings_size_eq same again home

/-- and under one tag they resolve the same symbols. -/
theorem isSome_resolve?_of_knows (valid : table.WellFormed) (again : other.WellFormed)
    (tag : table.tag = other.tag) (symbol : Symbol) :
    (table.resolve? symbol).isSome ↔ (other.resolve? symbol).isSome := by
  rw [isSome_resolve?_iff, isSome_resolve?_iff, tag, valid.spellings_size_eq same again]

end WellFormed

end SymbolTable

end SchemeBase
