import Mathlib.Algebra.BigOperators.Fin
import SchemeBase.Symbol.Table

/-! # Well-formed symbol tables

In a well-formed table the two halves of every shard are inverse to each other, a spelling lives
in the shard that its hash names, no shard has more spellings than slots, and the size counts the
spellings of all shards. A table is created well-formed, and interning keeps it so, whether it
succeeds or not. What interning does to a well-formed table is then seen through `get?` alone,
since `resolve?` is its inverse.
-/

namespace SchemeBase

namespace Symbol

/-- A handle is put together again from its parts. -/
@[simp] theorem ofParts_parts (symbol : Symbol) :
    ofParts symbol.tag symbol.shard symbol.slot = symbol := by
  have raw : (ofParts symbol.tag symbol.shard symbol.slot).raw = symbol.raw := by
    have := symbol.raw.toNat_lt
    apply UInt32.toNat_inj.mp
    rw [toNat_raw_ofParts]
    simp only [tag, shard, slot, UInt8.toNat_ofNat']
    unfold shardCount
    omega
  cases symbol
  exact congrArg Symbol.mk raw

theorem slot_ofParts_of_le {tag : UInt8} {shard : Fin shardCount} {slot : Nat}
    (bound : slot ≤ maxSlot) : (ofParts tag shard slot).slot = slot := by
  rw [slot_ofParts]
  unfold maxSlot at bound
  omega

end Symbol

open SchemeBase.Symbol

namespace Shard

variable {shard : Shard} {home : Fin shardCount} {spelling : String}

/-- The spellings and the slots of a shard are inverse to each other, all its spellings belong in
it, and there is a slot for each. -/
structure WellFormed (shard : Shard) (home : Fin shardCount) : Prop where
  inverse : ∀ (spelling : String) (slot : Nat), shard.slots[spelling]? = some slot ↔
    shard.spellings[slot]? = some spelling
  home : ∀ spelling ∈ shard.spellings, SymbolTable.shardOf spelling = home
  bounded : shard.spellings.size ≤ maxSlot + 1

theorem wellFormed_empty (home : Fin shardCount) : WellFormed {} home where
  inverse spelling slot := by simp
  home spelling member := by simp at member
  bounded := by simp

/-- A spelling that is new to its shard may take a free slot. -/
theorem WellFormed.push (valid : shard.WellFormed home)
    (belongs : SymbolTable.shardOf spelling = home)
    (new : shard.slots[spelling]? = none) (room : shard.spellings.size ≤ maxSlot) :
    (shard.push spelling).WellFormed home where
  inverse other slot := by
    have old := valid.inverse other slot
    simp only [Shard.push, Std.TreeMap.getElem?_insert, Array.getElem?_push]
    by_cases last : slot = shard.spellings.size
    · subst last
      rw [Array.getElem?_size] at old
      by_cases same : spelling = other <;> simp_all
    · by_cases same : spelling = other
      · subst same
        simp_all [Ne.symm last]
      · simpa [last, same] using old
  home other member := by
    rcases Array.mem_push.mp member with member | rfl
    · exact valid.home other member
    · exact belongs
  bounded := by
    simp only [Shard.push, Array.size_push]
    omega

end Shard

namespace SymbolTable

variable {table next : SymbolTable} {spelling : String} {symbol : Symbol}

/-- Every shard is well-formed, and the size counts the spellings of all shards. -/
structure WellFormed (table : SymbolTable) : Prop where
  shards : ∀ home : Fin shardCount, (table.shard home).WellFormed home
  size_eq : table.size = ∑ home : Fin shardCount, (table.shard home).spellings.size

/-- The shards before and after a spelling is given a slot. -/
theorem shard_push (table : SymbolTable) (spelling : String) (home : Fin shardCount) :
    (table.push spelling).shard home =
      if home = shardOf spelling then (table.shard home).push spelling else table.shard home := by
  simp only [push, SymbolTable.shard, Fin.getElem_fin, Vector.getElem_set, Fin.val_inj]
  by_cases same : home = shardOf spelling
  · subst same
    simp
  · simp [same, Ne.symm same]

/-- A table without any spelling. -/
private def blank (tag : UInt8) : SymbolTable where
  tag := tag
  shards := Vector.replicate shardCount {}
  size := 0

private theorem shard_blank (tag : UInt8) (home : Fin shardCount) :
    (blank tag).shard home = {} :=
  Vector.getElem_replicate ..

private theorem bare_eq_push (tag : UInt8) : bare tag = (blank tag).push "" := rfl

theorem get?_eq_some_iff_slot : table.get? spelling = some symbol ↔
    ∃ slot : Nat, (table.shard (shardOf spelling)).slots[spelling]? = some slot ∧
      ofParts table.tag (shardOf spelling) slot = symbol := by
  simp only [get?, Option.map_eq_some_iff]

theorem resolve?_eq_some_iff : table.resolve? symbol = some spelling ↔
    symbol.tag = table.tag ∧ (table.shard symbol.shard).spellings[symbol.slot]? = some spelling := by
  simp only [resolve?, Option.ite_none_right_eq_some]

theorem spelling_of_resolve? (read : table.resolve? symbol = some spelling) :
    table.spelling symbol = spelling := by
  rw [SymbolTable.spelling, read, Option.getD_some]

theorem spelling_of_unresolved (unread : table.resolve? symbol = none) :
    table.spelling symbol = symbol.placeholder := by
  rw [SymbolTable.spelling, unread, Option.getD_none]

namespace WellFormed

/-- Resolving a symbol is inverse to asking for the symbol of a spelling. -/
theorem get?_eq_some_iff (valid : table.WellFormed) :
    table.get? spelling = some symbol ↔ table.resolve? symbol = some spelling := by
  rw [get?_eq_some_iff_slot, resolve?_eq_some_iff]
  constructor
  · rintro ⟨slot, found, rfl⟩
    have read := ((valid.shards _).inverse _ _).mp found
    have bound := (Array.getElem?_eq_some_iff.mp read).1
    have room := (valid.shards (shardOf spelling)).bounded
    have slot_eq : (ofParts table.tag (shardOf spelling) slot).slot = slot :=
      slot_ofParts_of_le (by omega)
    simp only [tag_ofParts, shard_ofParts, slot_eq]
    exact ⟨trivial, read⟩
  · rintro ⟨tag, read⟩
    have home := (valid.shards symbol.shard).home spelling (Array.mem_of_getElem? read)
    have found := ((valid.shards symbol.shard).inverse _ _).mpr read
    refine ⟨symbol.slot, ?_, by rw [home, ← tag, ofParts_parts]⟩
    simpa only [home] using found

/-- Different spellings have different symbols. -/
theorem get?_inj (valid : table.WellFormed) {other : String}
    (left : table.get? spelling = some symbol) (right : table.get? other = some symbol) :
    spelling = other := by
  rw [valid.get?_eq_some_iff] at left right
  exact Option.some.inj (left.symm.trans right)

theorem push (valid : table.WellFormed) (new : table.get? spelling = none)
    (room : (table.shard (shardOf spelling)).spellings.size ≤ maxSlot) :
    (table.push spelling).WellFormed where
  shards home := by
    rw [shard_push]
    split
    · next same =>
      subst same
      have unseen : (table.shard (shardOf spelling)).slots[spelling]? = none := by
        simpa only [get?, Option.map_eq_none_iff] using new
      exact (valid.shards _).push rfl unseen room
    · exact valid.shards home
  size_eq := by
    have one (home : Fin shardCount) : ((table.push spelling).shard home).spellings.size =
        (table.shard home).spellings.size + if home = shardOf spelling then 1 else 0 := by
      rw [shard_push]
      split
      · exact Array.size_push _
      · rfl
    simp only [one, Finset.sum_add_distrib, Finset.sum_ite_eq', Finset.mem_univ, if_true]
    rw [← valid.size_eq]
    rfl

end WellFormed

@[simp] theorem tag_push (table : SymbolTable) (spelling : String) :
    (table.push spelling).tag = table.tag := rfl

@[simp] theorem size_push (table : SymbolTable) (spelling : String) :
    (table.push spelling).size = table.size + 1 := rfl

theorem get?_push (table : SymbolTable) (spelling other : String) :
    (table.push spelling).get? other =
      if other = spelling then
        some (ofParts table.tag (shardOf spelling) (table.shard (shardOf spelling)).spellings.size)
      else table.get? other := by
  simp only [get?, shard_push, tag_push]
  by_cases same : other = spelling
  · subst same
    simp [Shard.push]
  · rw [if_neg same]
    split
    · simp [Shard.push, Std.TreeMap.getElem?_insert, Ne.symm same]
    · rfl

theorem get?_bare (tag : UInt8) (spelling : String) :
    (bare tag).get? spelling = if spelling = "" then some (ofParts tag 0 0) else none := by
  rw [bare_eq_push, get?_push]
  have unknown : (blank tag).get? spelling = none := by
    simp only [get?, shard_blank]
    rfl
  rw [unknown]
  rfl

private theorem blank_wellFormed (tag : UInt8) : (blank tag).WellFormed where
  shards home := by
    rw [shard_blank]
    exact Shard.wellFormed_empty home
  size_eq := by
    simp only [shard_blank]
    rfl

theorem bare_wellFormed (tag : UInt8) : (bare tag).WellFormed := by
  rw [bare_eq_push]
  refine (blank_wellFormed tag).push ?_ ?_
  · simp only [get?, shard_blank]
    rfl
  · rw [shard_blank]
    exact Nat.zero_le _

/-! ## What interning does -/

/-- Interning finds the spelling, gives it a slot, or meets a full shard and changes nothing. -/
theorem intern_cases (table : SymbolTable) (spelling : String) :
    (∃ symbol, table.get? spelling = some symbol ∧ table.intern spelling = (.ok symbol, table)) ∨
    (table.get? spelling = none ∧
      (table.shard (shardOf spelling)).spellings.size ≤ maxSlot ∧
      table.intern spelling =
        (.ok (ofParts table.tag (shardOf spelling) (table.shard (shardOf spelling)).spellings.size),
          table.push spelling)) ∨
    (table.get? spelling = none ∧
      maxSlot < (table.shard (shardOf spelling)).spellings.size ∧
      table.intern spelling =
        (.error (.shardFull (shardOf spelling) (table.shard (shardOf spelling)).spellings.size),
          table)) := by
  unfold intern
  cases found : table.get? spelling with
  | some symbol => exact .inl ⟨symbol, rfl, rfl⟩
  | none =>
    by_cases room : (table.shard (shardOf spelling)).spellings.size ≤ maxSlot
    · exact .inr (.inl ⟨rfl, room, if_pos room⟩)
    · exact .inr (.inr ⟨rfl, by omega, if_neg room⟩)

/-- A known spelling changes nothing. -/
theorem intern_of_get? (found : table.get? spelling = some symbol) :
    table.intern spelling = (.ok symbol, table) := by
  simp only [intern, found]

/-- After a success the spelling has its symbol, and all other spellings have the ones they had. -/
theorem get?_of_intern (success : table.intern spelling = (.ok symbol, next)) (other : String) :
    next.get? other = if other = spelling then some symbol else table.get? other := by
  obtain ⟨known, found, run⟩ | ⟨_, _, run⟩ | ⟨_, _, run⟩ := table.intern_cases spelling
  · cases run.symm.trans success
    split
    · next same => rw [same, found]
    · rfl
  · cases run.symm.trans success
    exact get?_push table spelling other
  · cases run.symm.trans success

/-- The size counts new spellings. -/
theorem size_of_intern (success : table.intern spelling = (.ok symbol, next)) :
    next.size = table.size + if (table.get? spelling).isSome then 0 else 1 := by
  obtain ⟨known, found, run⟩ | ⟨new, _, run⟩ | ⟨_, _, run⟩ := table.intern_cases spelling
  · cases run.symm.trans success
    simp [found]
  · cases run.symm.trans success
    simp [new]
  · cases run.symm.trans success

theorem WellFormed.intern (valid : table.WellFormed) (spelling : String) :
    (table.intern spelling).2.WellFormed := by
  obtain ⟨known, found, run⟩ | ⟨new, room, run⟩ | ⟨_, _, run⟩ := table.intern_cases spelling <;>
    rw [run]
  · exact valid
  · exact valid.push new room
  · exact valid

/-! ## Growth -/

/-- Every spelling that the old table knows has the same symbol in the new one. -/
structure Extends (old new : SymbolTable) : Prop where
  tag_eq : new.tag = old.tag
  get? : ∀ spelling symbol, old.get? spelling = some symbol → new.get? spelling = some symbol

theorem Extends.refl (table : SymbolTable) : table.Extends table :=
  ⟨rfl, fun _ _ found => found⟩

theorem Extends.trans {first middle last : SymbolTable} (left : first.Extends middle)
    (right : middle.Extends last) : first.Extends last :=
  ⟨right.tag_eq.trans left.tag_eq, fun _ _ found => right.get? _ _ (left.get? _ _ found)⟩

theorem Extends.resolve? {old new : SymbolTable} (growth : old.Extends new)
    (before : old.WellFormed) (after : new.WellFormed) (read : old.resolve? symbol = some spelling) :
    new.resolve? symbol = some spelling :=
  after.get?_eq_some_iff.mp (growth.get? _ _ (before.get?_eq_some_iff.mpr read))

/-- A symbol that the new table alone resolves has a new spelling. -/
theorem Extends.get?_eq_none {old new : SymbolTable} (growth : old.Extends new)
    (before : old.WellFormed) (after : new.WellFormed) (unread : old.resolve? symbol = none)
    (read : new.resolve? symbol = some spelling) : old.get? spelling = none := by
  cases found : old.get? spelling with
  | none => rfl
  | some other =>
    cases (growth.get? _ _ found).symm.trans (after.get?_eq_some_iff.mpr read)
    cases unread.symm.trans (before.get?_eq_some_iff.mp found)

/-- The symbol of a spelling that the new table alone knows is a new one. -/
theorem Extends.resolve?_eq_none {old new : SymbolTable} (growth : old.Extends new)
    (before : old.WellFormed) (after : new.WellFormed) (unknown : old.get? spelling = none)
    (found : new.get? spelling = some symbol) : old.resolve? symbol = none := by
  cases read : old.resolve? symbol with
  | none => rfl
  | some other =>
    cases (growth.resolve? before after read).symm.trans (after.get?_eq_some_iff.mp found)
    cases unknown.symm.trans (before.get?_eq_some_iff.mpr read)

/-- Interning never takes a symbol from a spelling. -/
theorem extends_intern (table : SymbolTable) (spelling : String) :
    table.Extends (table.intern spelling).2 := by
  obtain ⟨known, found, run⟩ | ⟨new, room, run⟩ | ⟨_, _, run⟩ := table.intern_cases spelling <;>
    rw [run]
  · exact .refl table
  · refine ⟨rfl, fun other symbol found => ?_⟩
    have apart : other ≠ spelling := by
      rintro rfl
      rw [new] at found
      cases found
    rw [get?_push, if_neg apart, found]
  · exact .refl table

/-- Spellings are never taken back, whatever a table looks like. -/
theorem resolve?_push {other : String} (read : table.resolve? symbol = some other) (spelling : String) :
    (table.push spelling).resolve? symbol = some other := by
  obtain ⟨own, inside⟩ := resolve?_eq_some_iff.mp read
  refine resolve?_eq_some_iff.mpr ⟨own, ?_⟩
  rw [shard_push]
  split
  · obtain ⟨within, _⟩ := Array.getElem?_eq_some_iff.mp inside
    rw [Shard.push, Array.getElem?_push_lt within, ← inside, Array.getElem?_eq_getElem within]
  · exact inside

theorem resolve?_intern {other : String} (read : table.resolve? symbol = some other) (spelling : String) :
    (table.intern spelling).2.resolve? symbol = some other := by
  obtain ⟨_, _, run⟩ | ⟨_, _, run⟩ | ⟨_, _, run⟩ := table.intern_cases spelling <;> rw [run]
  · exact read
  · exact resolve?_push read spelling
  · exact read

theorem resolve?_internAll {other : String} (read : table.resolve? symbol = some other)
    (spellings : List String) : (table.internAll spellings).resolve? symbol = some other := by
  induction spellings generalizing table with
  | nil => exact read
  | cons spelling rest ih => exact ih (resolve?_intern read spelling)

/-- A spelling that is known after interning another was known before. -/
theorem known_of_intern {other : String} (known : ((table.intern spelling).2.get? other).isSome) :
    (table.get? other).isSome ∨ other = spelling := by
  obtain ⟨_, _, run⟩ | ⟨_, _, run⟩ | ⟨_, _, run⟩ := table.intern_cases spelling <;>
    rw [run] at known
  · exact .inl known
  · by_cases same : other = spelling
    · exact .inr same
    · rw [get?_push, if_neg same] at known
      exact .inl known
  · exact .inl known

theorem WellFormed.internAll (valid : table.WellFormed) (spellings : List String) :
    (table.internAll spellings).WellFormed := by
  induction spellings generalizing table with
  | nil => exact valid
  | cons spelling rest ih => exact ih (valid.intern spelling)

/-- A table is created well-formed. -/
theorem create_wellFormed (tag : UInt8) : (create tag).WellFormed :=
  (bare_wellFormed tag).internAll coreSpellings

end SymbolTable

end SchemeBase
