import SchemeBase.Proofs.Symbol.WellFormed
import SchemeBase.Proofs.Value.Notation
import SchemeBase.Proofs.Value.Written

/-! # The layout of a handle

The tag, the shard and the slot fill the 32 bits of a handle, eight, four and twenty of them, and do not
overlap. So a handle stands for its parts and they for it, and comparing handles as numbers is comparing
the parts from the left. The placeholder shows the parts in decimal, and no digit follows a part, so it
tells one handle from all others, too.
-/

namespace SchemeBase

open SchemeBase.Text

namespace Symbol

variable {first second : Symbol}

/-! ## Fields of bits -/

theorem slot_le (symbol : Symbol) : symbol.slot ≤ maxSlot := by
  unfold slot maxSlot
  omega

theorem toNat_raw (symbol : Symbol) : symbol.raw.toNat =
    symbol.tag.toNat * 0x1000000 + (symbol.shard.val * 0x100000 + symbol.slot) := by
  have bound := symbol.slot_le
  conv_lhs => rw [← ofParts_parts symbol, toNat_raw_ofParts]
  unfold maxSlot at bound
  omega

/-- Numbers whose bits lie apart are added by uniting the bits. -/
theorem fields_eq_or {high middle low : Nat} (four : middle < 2 ^ 4) (twenty : low < 2 ^ 20) :
    high * 2 ^ 24 + middle * 2 ^ 20 + low = high * 2 ^ 24 ||| middle * 2 ^ 20 ||| low := by
  calc
    high * 2 ^ 24 + middle * 2 ^ 20 + low = 2 ^ 20 * (high * 2 ^ 4 + middle) + low := by omega
    _ = 2 ^ 20 * (high * 2 ^ 4 + middle) ||| low := Nat.two_pow_add_eq_or_of_lt twenty _
    _ = (2 ^ 24 * high + middle * 2 ^ 20) ||| low := by congr 1; omega
    _ = (2 ^ 24 * high ||| middle * 2 ^ 20) ||| low := by
      rw [Nat.two_pow_add_eq_or_of_lt (by omega)]
    _ = _ := by rw [Nat.mul_comm high]

/-- A handle is put together by shifting each part to its place and dropping what the place cannot hold. -/
theorem raw_ofParts (tag : UInt8) (shard : Fin shardCount) (slot : Nat) :
    (ofParts tag shard slot).raw =
      tag.toUInt32 <<< 24 ||| UInt32.ofNat shard <<< 20 ||| (UInt32.ofNat slot &&& 0xFFFFF) := by
  have eight := tag.toNat_lt
  have four : shard.val < 2 ^ 4 := shard.isLt
  have high : (tag.toUInt32 <<< 24).toNat = tag.toNat * 2 ^ 24 := by
    rw [UInt32.toNat_shiftLeft, UInt8.toNat_toUInt32, Nat.shiftLeft_eq]
    simp only [UInt32.reduceToNat, Nat.reduceMod]
    omega
  have middle : (UInt32.ofNat shard <<< 20).toNat = shard.val * 2 ^ 20 := by
    rw [UInt32.toNat_shiftLeft, UInt32.toNat_ofNat', Nat.shiftLeft_eq]
    simp only [UInt32.reduceToNat, Nat.reduceMod]
    omega
  have low : (UInt32.ofNat slot &&& 0xFFFFF).toNat = slot % 2 ^ 20 := by
    rw [UInt32.toNat_and, UInt32.toNat_ofNat']
    exact (Nat.and_two_pow_sub_one_eq_mod _ 20).trans (Nat.mod_mod_of_dvd _ (by decide))
  apply UInt32.toNat_inj.mp
  rw [toNat_raw_ofParts, UInt32.toNat_or, UInt32.toNat_or, high, middle, low]
  exact fields_eq_or four (Nat.mod_lt _ (by decide))

/-- Each part is read from its place by a shift and a mask. -/
theorem parts_eq (symbol : Symbol) : symbol.tag = (symbol.raw >>> 24).toUInt8 ∧
    symbol.shard.val = (symbol.raw >>> 20 &&& 0xF).toNat ∧
    symbol.slot = (symbol.raw &&& 0xFFFFF).toNat := by
  refine ⟨UInt8.toNat_inj.mp ?_, ?_, ?_⟩
  · rw [UInt32.toNat_toUInt8, UInt32.toNat_shiftRight, Nat.shiftRight_eq_div_pow, tag, UInt8.toNat_ofNat']
    rfl
  · rw [UInt32.toNat_and, UInt32.toNat_shiftRight, Nat.shiftRight_eq_div_pow]
    exact (Nat.and_two_pow_sub_one_eq_mod _ 4).symm
  · rw [UInt32.toNat_and]
    exact (Nat.and_two_pow_sub_one_eq_mod _ 20).symm

theorem ext_parts (tags : first.tag = second.tag) (shards : first.shard = second.shard)
    (slots : first.slot = second.slot) : first = second := by
  rw [← ofParts_parts first, tags, shards, slots, ofParts_parts]

/-! ## Order -/

/-- Numbers of two digits are compared by the first, and by the second if the first are the same. -/
theorem compare_mul_add {base high low high' low' : Nat} (digit : low < base) (digit' : low' < base) :
    compare (high * base + low) (high' * base + low') =
      (compare high high').then (compare low low') := by
  rcases Nat.lt_trichotomy high high' with less | rfl | more
  · have room := Nat.mul_le_mul_right base less
    rw [Nat.succ_mul] at room
    rw [Nat.compare_eq_lt.mpr less, Nat.compare_eq_lt.mpr (by omega)]
    rfl
  · simp [Nat.compare_eq_ite_lt]
  · have room := Nat.mul_le_mul_right base more
    rw [Nat.succ_mul] at room
    rw [Nat.compare_eq_gt.mpr more, Nat.compare_eq_gt.mpr (by omega)]
    rfl

/-- Handles are in the order of their tags, then of their shards, and then of their slots. -/
theorem compare_raw (first second : Symbol) : compare first.raw second.raw =
    compareLex (compareOn tag) (compareLex (compareOn shard) (compareOn slot)) first second := by
  have numbers : compare first.raw second.raw = compare first.raw.toNat second.raw.toNat := by
    simp only [compare, compareOfLessAndEq, UInt32.lt_iff_toNat_lt, UInt32.toNat_inj]
  have tags : compare first.tag second.tag = compare first.tag.toNat second.tag.toNat := by
    simp only [compare, compareOfLessAndEq, UInt8.lt_iff_toNat_lt, UInt8.toNat_inj]
  have slots (symbol : Symbol) : symbol.slot < 0x100000 := Nat.lt_succ_of_le symbol.slot_le
  have rest (symbol : Symbol) : symbol.shard.val * 0x100000 + symbol.slot < 0x1000000 := by
    have four : symbol.shard.val < 16 := symbol.shard.isLt
    have twenty := slots symbol
    omega
  rw [numbers, toNat_raw, toNat_raw, compare_mul_add (rest first) (rest second),
    compare_mul_add (slots first) (slots second), ← tags]
  rfl

/-! ## Placeholders -/

theorem placeholder_eq (symbol : Symbol) : symbol.placeholder =
    "#<symbol " ++ toString symbol.tag.toNat ++ ":" ++ toString symbol.shard.val ++ ":" ++
      toString symbol.slot ++ ">" :=
  rfl

theorem toList_placeholder (symbol : Symbol) : symbol.placeholder.toList =
    "#<symbol ".toList ++ ((toString symbol.tag.toNat).toList ++ ':' ::
      ((toString symbol.shard.val).toList ++ ':' :: ((toString symbol.slot).toList ++ ['>']))) := by
  simp [placeholder_eq]

/-- The parts are read off a placeholder from the left, each up to the sign that follows its digits. -/
theorem placeholder_injective : Function.Injective placeholder := by
  intro first second same
  have texts := congrArg String.toList same
  rw [toList_placeholder, toList_placeholder] at texts
  obtain ⟨tags, texts⟩ := toString_append_inj rfl rfl (List.append_cancel_left texts)
  obtain ⟨shards, texts⟩ := toString_append_inj rfl rfl (List.tail_eq_of_cons_eq texts)
  obtain ⟨slots, _⟩ := toString_append_inj rfl rfl (List.tail_eq_of_cons_eq texts)
  exact ext_parts (UInt8.toNat_inj.mp tags) (Fin.ext shards) slots

end Symbol

/-- A symbol without a spelling is written as its placeholder. -/
theorem Value.written_unresolved {table : SymbolTable} {symbol : Symbol}
    (unread : table.resolve? symbol = none) : (Value.symbol symbol).written table = symbol.placeholder :=
  (written_of_ne_pair (by simp [type])).trans (SymbolTable.spelling_of_unresolved unread)

namespace Symbol

/-- A handle and its parts stand for each other. Parts are shifted into a handle and masked out of it
again: those that fit come back as they were, and any 32 bits are the handle of what is read from them.
Handles are ordered as their parts are. Placeholders show the parts, and no two handles share one, so
symbols without a spelling are written alike only if they are the same, whatever the tables. -/
theorem parts_faithful (tag : UInt8) (shard : Fin shardCount) (slot : Nat) (symbol other : Symbol)
    (t u : SymbolTable) :
    let handle := ofParts tag shard slot
    (handle.raw =
      tag.toUInt32 <<< 24 ||| UInt32.ofNat shard <<< 20 ||| (UInt32.ofNat slot &&& 0xFFFFF)) ∧
    (slot ≤ maxSlot → handle.tag = tag ∧ handle.shard = shard ∧ handle.slot = slot ∧
      handle.placeholder = "#<symbol " ++ toString tag.toNat ++ ":" ++ toString shard.val ++ ":" ++
        toString slot ++ ">") ∧
    (symbol.tag = (symbol.raw >>> 24).toUInt8 ∧ symbol.shard.val = (symbol.raw >>> 20 &&& 0xF).toNat ∧
      symbol.slot = (symbol.raw &&& 0xFFFFF).toNat) ∧
    symbol.slot ≤ maxSlot ∧ ofParts symbol.tag symbol.shard symbol.slot = symbol ∧
    (compare symbol.raw other.raw =
      compareLex (compareOn Symbol.tag) (compareLex (compareOn Symbol.shard) (compareOn Symbol.slot))
        symbol other) ∧
    (symbol.placeholder = other.placeholder ↔ symbol = other) ∧
    (t.resolve? symbol = none → u.resolve? other = none →
      ((Value.symbol symbol).written t = (Value.symbol other).written u ↔ symbol = other)) := by
  intro handle
  refine ⟨raw_ofParts tag shard slot, fun bound => ?_, parts_eq symbol, slot_le symbol,
    ofParts_parts symbol, compare_raw symbol other, placeholder_injective.eq_iff, fun unread unread' => ?_⟩
  · have tags : handle.tag = tag := tag_ofParts ..
    have shards : handle.shard = shard := shard_ofParts ..
    have slots : handle.slot = slot := slot_ofParts_of_le bound
    exact ⟨tags, shards, slots, by rw [placeholder_eq, tags, shards, slots]⟩
  · rw [Value.written_unresolved unread, Value.written_unresolved unread']
    exact placeholder_injective.eq_iff

/-- The widest parts leave no bit of the handle unset, and where the digits of all parts together are the
same, the signs between them tell two symbols apart. -/
theorem parts_faithful_digits :
    let first := ofParts 1 11 1
    let second := ofParts 11 1 1
    (ofParts 255 15 maxSlot).raw = 0xFFFFFFFF ∧ (ofParts 255 15 maxSlot).slot = maxSlot ∧
      (ofParts 255 15 maxSlot).placeholder = "#<symbol 255:15:1048575>" ∧
      compare first.raw second.raw = .lt ∧
      (SymbolTable.bare 0).resolve? first = none ∧ (SymbolTable.bare 2).resolve? second = none ∧
      (Value.symbol first).written (.bare 0) ≠ (Value.symbol second).written (.bare 2) := by
  intro first second
  have foreign : (SymbolTable.bare 0).resolve? first = none := by decide
  have foreign' : (SymbolTable.bare 2).resolve? second = none := by decide
  obtain ⟨_, parts, _, _, _, order, _, apart⟩ :=
    parts_faithful 255 15 maxSlot first second (.bare 0) (.bare 2)
  obtain ⟨_, _, slots, text⟩ := parts (Nat.le_refl _)
  refine ⟨by decide, slots, text.trans (by decide), order.trans (by decide), foreign, foreign', ?_⟩
  rw [Ne, apart foreign foreign']
  decide

end Symbol

end SchemeBase
