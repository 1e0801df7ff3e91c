import Mathlib.Order.Bounds.Defs
import SchemeBase.Text.Length

/-! # What the length of a text counts

Any bytes are the encoding of some characters followed by a rest at which no character starts. Counting
takes the characters one by one and then either stands at the end or stops in front of the rest. No
bytes of the rest are UTF-8 however few of them are taken, so the characters are the longest valid
prefix, and without a rest they are the only characters that the bytes encode.

A NUL ends the text because no other character has a zero byte in its encoding. It may end it inside
a character, and then that character is where the rest begins.
-/

namespace SchemeBase.Text

variable {bytes body tail : ByteArray} {chars : List Char} {c : Char}

/-- The byte that ends a text. -/
def terminator : ByteArray := ⟨#[0]⟩

/-- The body has no zero byte, and either it is all there is or a terminator follows it. -/
def HasBody (bytes body : ByteArray) : Prop :=
  0 ∉ body.data ∧ (bytes = body ∨ ∃ rest, bytes = body ++ terminator ++ rest)

/-- How many bytes can be taken from the start so that they encode characters. -/
def validLengths (body : ByteArray) : Set Nat :=
  {size | size ≤ body.size ∧ (body.extract 0 size).IsValidUTF8}

/-! ## The body of a text -/

theorem findIdx_eq_size (free : 0 ∉ body.data) :
    body.data.findIdx (· == 0) = body.data.size := by
  rw [Array.findIdx_eq_size]
  intro byte mem
  exact beq_false_of_ne fun zero => free (zero ▸ mem)

theorem HasBody.beforeNul_eq (hasBody : HasBody bytes body) : beforeNul bytes = body := by
  obtain ⟨free, rfl | ⟨rest, rfl⟩⟩ := hasBody
  · rw [beforeNul, findIdx_eq_size free]
    exact ByteArray.extract_zero_size
  · have first : (body ++ terminator ++ rest).data.findIdx (· == 0) = body.data.size := by
      rw [ByteArray.append_assoc, ByteArray.data_append, Array.findIdx_append, findIdx_eq_size free,
        if_neg (Nat.lt_irrefl _), ByteArray.data_append, Array.findIdx_append]
      simp [terminator]
    rw [beforeNul, first, ByteArray.append_assoc]
    exact ByteArray.extract_append_eq_left rfl

theorem exists_hasBody (bytes : ByteArray) : ∃ body, HasBody bytes body := by
  by_cases ends : 0 ∈ bytes.data.toList
  · obtain ⟨before, rest, split, free⟩ := List.eq_append_cons_of_mem ends
    refine ⟨⟨⟨before⟩⟩, fun mem => free mem.val, .inr ⟨⟨⟨rest⟩⟩, ?_⟩⟩
    ext1
    apply Array.toList_inj.mp
    rw [split]
    simp [terminator]
  · exact ⟨bytes, fun mem => ends mem.val, .inl rfl⟩

theorem hasBody_beforeNul (bytes : ByteArray) : HasBody bytes (beforeNul bytes) := by
  obtain ⟨body, hasBody⟩ := exists_hasBody bytes
  rwa [hasBody.beforeNul_eq]

/-! ## Where decoding stops -/

theorem utf8DecodeChar?_append (before rest : ByteArray) :
    (before ++ rest).utf8DecodeChar? before.size = rest.utf8DecodeChar? 0 := by
  rw [ByteArray.utf8DecodeChar?_eq_utf8DecodeChar?_extract,
    ByteArray.extract_append_eq_right rfl ByteArray.size_append]

/-- A character is not decoded from fewer bytes than those it is decoded from. -/
theorem utf8DecodeChar?_extract (stops : tail.utf8DecodeChar? 0 = none) (size : Nat) :
    (tail.extract 0 size).utf8DecodeChar? 0 = none := by
  cases decoded : (tail.extract 0 size).utf8DecodeChar? 0 with
  | none => rfl
  | some c =>
    have whole := ByteArray.utf8DecodeChar?_append_eq_some decoded (tail.extract size tail.size)
    rw [ByteArray.extract_append_extract, Nat.zero_min, ByteArray.extract_zero_max_size, stops] at whole
    cases whole

theorem size_utf8Encode_singleton (c : Char) : [c].utf8Encode.size = c.utf8Size := by
  rw [List.utf8Encode_singleton, List.size_toByteArray, String.length_utf8EncodeChar]

theorem utf8DecodeChar?_truncated {size : Nat} (short : size < c.utf8Size) :
    ([c].utf8Encode.extract 0 size).utf8DecodeChar? 0 = none := by
  cases decoded : ([c].utf8Encode.extract 0 size).utf8DecodeChar? 0 with
  | none => rfl
  | some other =>
    have whole := ByteArray.utf8DecodeChar?_append_eq_some decoded
      ([c].utf8Encode.extract size [c].utf8Encode.size)
    rw [ByteArray.extract_append_extract, Nat.zero_min, ByteArray.extract_zero_max_size,
      List.utf8DecodeChar?_utf8Encode_cons] at whole
    obtain rfl := Option.some.inj whole
    have fits := ByteArray.le_size_of_utf8DecodeChar?_eq_some decoded
    rw [ByteArray.size_extract] at fits
    omega

/-- Bytes are characters and a rest at which no character starts. -/
theorem exists_chars_append (bytes : ByteArray) :
    ∃ (chars : List Char) (tail : ByteArray),
      bytes = chars.utf8Encode ++ tail ∧ tail.utf8DecodeChar? 0 = none := by
  generalize fits : bytes.size = size
  induction size using Nat.strongRecOn generalizing bytes with
  | ind size ih =>
    cases decoded : bytes.utf8DecodeChar? 0 with
    | none => exact ⟨[], bytes, ByteArray.empty_append.symm, decoded⟩
    | some c =>
      obtain ⟨rest, rfl⟩ := ByteArray.exists_of_utf8DecodeChar?_eq_some decoded
      rw [← List.utf8Encode_singleton] at fits ⊢
      have shorter : rest.size < size := by
        rw [← fits, ByteArray.size_append, size_utf8Encode_singleton]
        exact Nat.lt_add_of_pos_left c.utf8Size_pos
      obtain ⟨chars, tail, rfl, stops⟩ := ih rest.size shorter rest rfl
      refine ⟨c :: chars, tail, ?_, stops⟩
      rw [← ByteArray.append_assoc, ← List.utf8Encode_cons]

/-! ## Valid prefixes -/

theorem isValidUTF8_append_iff : (chars.utf8Encode ++ tail).IsValidUTF8 ↔ tail.IsValidUTF8 := by
  induction chars with
  | nil => rw [List.utf8Encode_nil, ByteArray.empty_append]
  | cons c chars ih =>
    rw [List.utf8Encode_cons, ByteArray.append_assoc,
      ByteArray.isValidUTF8_utf8Encode_singleton_append_iff, ih]

theorem eq_empty_of_isValidUTF8 (stops : tail.utf8DecodeChar? 0 = none) (valid : tail.IsValidUTF8) :
    tail = ByteArray.empty := by
  obtain ⟨chars, rfl⟩ := valid
  cases chars with
  | nil => exact List.utf8Encode_nil
  | cons c chars =>
    rw [List.utf8DecodeChar?_utf8Encode_cons] at stops
    cases stops

theorem isGreatest_validLengths (stops : tail.utf8DecodeChar? 0 = none) :
    IsGreatest (validLengths (chars.utf8Encode ++ tail)) chars.utf8Encode.size := by
  constructor
  · refine ⟨by rw [ByteArray.size_append]; exact Nat.le_add_right .., ?_⟩
    rw [ByteArray.extract_append_eq_left rfl]
    exact ⟨chars, rfl⟩
  · rintro size ⟨fits, valid⟩
    apply Nat.le_of_not_lt
    intro longer
    obtain ⟨extra, rfl⟩ := Nat.exists_eq_add_of_lt longer
    have whole := @ByteArray.extract_zero_max_size chars.utf8Encode
      (chars.utf8Encode.size + (extra + 1))
    rw [Nat.max_eq_left (Nat.le_add_right ..)] at whole
    rw [Nat.add_assoc, ByteArray.extract_append, whole, Nat.zero_sub, Nat.add_sub_cancel_left,
      isValidUTF8_append_iff] at valid
    have nothing := eq_empty_of_isValidUTF8 (utf8DecodeChar?_extract stops _) valid
    rw [ByteArray.extract_eq_empty_iff] at nothing
    rw [ByteArray.size_append] at fits
    omega

/-! ## Zero bytes -/

/-- The bytes of a longer encoding are marked by bits that are set. -/
theorem zero_mem_utf8EncodeChar (ends : 0 ∈ String.utf8EncodeChar c) : c = '\x00' := by
  have marked (payload mark : UInt8) (set : mark ≠ 0) : 0 ≠ payload ||| mark :=
    fun zero => set (UInt8.or_eq_zero_iff.mp zero.symm).2
  obtain one | two | three | four := c.utf8Size_eq
  · rw [String.utf8EncodeChar_eq_singleton one, List.mem_singleton] at ends
    have small := UInt32.le_iff_toNat_le.mp (Char.utf8Size_eq_one_iff.mp one)
    have zero := congrArg UInt8.toNat ends.symm
    rw [UInt32.toNat_toUInt8] at zero
    have : c.val.toNat = 0 := by
      rwa [Nat.mod_eq_of_lt (Nat.lt_of_le_of_lt small (by decide))] at zero
    exact Char.ext (UInt32.toNat_inj.mp this)
  · simp [String.utf8EncodeChar_eq_cons_cons two, marked] at ends
  · simp [String.utf8EncodeChar_eq_cons_cons_cons three, marked] at ends
  · simp [String.utf8EncodeChar_eq_cons_cons_cons_cons four, marked] at ends

theorem zero_not_mem_utf8Encode (free : '\x00' ∉ chars) : 0 ∉ chars.utf8Encode.data := by
  intro mem
  rw [← Array.mem_toList_iff, List.utf8Encode, List.toList_data_toByteArray, List.mem_flatMap] at mem
  obtain ⟨c, inside, zero⟩ := mem
  exact free (zero_mem_utf8EncodeChar zero ▸ inside)

/-- A character that can be cut short is another one than NUL. -/
theorem zero_not_mem_truncated {size : Nat} (nonempty : 0 < size) (short : size < c.utf8Size) :
    0 ∉ ([c].utf8Encode.extract 0 size).data := by
  have ordinary : '\x00' ∉ [c] := by
    rw [List.mem_singleton]
    rintro rfl
    have : size < 1 := short
    omega
  intro mem
  rw [ByteArray.data_extract] at mem
  obtain ⟨i, inside, here⟩ := Array.mem_extract_iff_getElem.mp mem
  exact zero_not_mem_utf8Encode ordinary (Array.mem_of_getElem here)

/-! ## Counting -/

/-- Counting takes all characters and stops at the rest. -/
theorem countFrom_append (stops : tail.utf8DecodeChar? 0 = none) (before : ByteArray) (count : Nat) :
    countFrom (before ++ (chars.utf8Encode ++ tail)) before.size count =
      if tail.size = 0 then .ok (count + chars.length)
      else .error (.invalidUtf8 (before.size + chars.utf8Encode.size)) := by
  induction chars generalizing before count with
  | nil =>
    rw [List.utf8Encode_nil, ByteArray.empty_append, countFrom, ByteArray.size_append,
      utf8DecodeChar?_append, stops]
    by_cases ends : tail.size = 0
    · rw [if_neg (by omega), if_pos ends]
      rfl
    · rw [if_pos (by omega), if_neg ends]
      rfl
  | cons c chars ih =>
    have size := size_utf8Encode_singleton c
    have more : before.size < (before ++ ([c].utf8Encode ++ (chars.utf8Encode ++ tail))).size := by
      have positive := c.utf8Size_pos
      rw [ByteArray.size_append, ByteArray.size_append]
      omega
    have next := ih (before ++ [c].utf8Encode) (count + 1)
    rw [ByteArray.append_assoc, ByteArray.size_append, size] at next
    rw [List.utf8Encode_cons, ByteArray.append_assoc, countFrom, if_pos more, utf8DecodeChar?_append,
      List.utf8DecodeChar?_utf8Encode_singleton_append]
    refine next.trans ?_
    rw [List.length_cons, Nat.add_right_comm, ByteArray.size_append, size, Nat.add_assoc, Nat.add_assoc]

theorem length_eq_ok (hasBody : HasBody bytes chars.utf8Encode) : length bytes = .ok chars.length := by
  have counted := @countFrom_append .empty chars (by decide) .empty 0
  rw [ByteArray.empty_append, ByteArray.append_empty, ByteArray.size_empty, if_pos rfl,
    Nat.zero_add] at counted
  rw [length, hasBody.beforeNul_eq, counted]

theorem length_eq_error (hasBody : HasBody bytes (chars.utf8Encode ++ tail))
    (stops : tail.utf8DecodeChar? 0 = none) (remains : tail.size ≠ 0) :
    length bytes = .error (.invalidUtf8 chars.utf8Encode.size) := by
  have counted := @countFrom_append tail chars stops .empty 0
  rw [ByteArray.empty_append, ByteArray.size_empty, if_neg remains, Nat.zero_add] at counted
  rw [length, hasBody.beforeNul_eq, counted]

theorem length_cases (bytes : ByteArray) :
    (∃ chars : List Char, beforeNul bytes = chars.utf8Encode ∧ length bytes = .ok chars.length) ∨
      ∃ size, length bytes = .error (.invalidUtf8 size) ∧
        IsGreatest (validLengths (beforeNul bytes)) size := by
  have hasBody := hasBody_beforeNul bytes
  obtain ⟨chars, tail, split, stops⟩ := exists_chars_append (beforeNul bytes)
  rw [split] at hasBody ⊢
  by_cases remains : tail.size = 0
  · obtain rfl := ByteArray.size_eq_zero_iff.mp remains
    rw [ByteArray.append_empty] at hasBody ⊢
    exact .inl ⟨chars, rfl, length_eq_ok hasBody⟩
  · exact .inr ⟨_, length_eq_error hasBody stops remains, isGreatest_validLengths stops⟩

/-- What the length of a text tells about its bytes. -/
structure Measured (bytes : ByteArray) : Prop where
  hasBody : HasBody bytes (beforeNul bytes)
  /-- A length is the number of Unicode scalar values that the body encodes. -/
  ok_iff (count : Nat) : length bytes = .ok count ↔
    ∃ chars : List Char, chars.length = count ∧ beforeNul bytes = chars.utf8Encode
  /-- The error for any other body reports its longest valid prefix. -/
  invalid : (¬∃ chars : List Char, beforeNul bytes = chars.utf8Encode) →
    ∃ size, length bytes = .error (.invalidUtf8 size) ∧
      IsGreatest (validLengths (beforeNul bytes)) size
  /-- Text that ends at a terminator has the length of the text. -/
  terminated (text : String) (rest : ByteArray) (free : '\x00' ∉ text.toList)
    (ends : bytes = text.toByteArray ++ terminator ++ rest) : length bytes = .ok text.length
  /-- A character that a terminator cuts short is an error at its first byte. -/
  truncated (text : String) (c : Char) (size : Nat) (rest : ByteArray) (free : '\x00' ∉ text.toList)
    (nonempty : 0 < size) (short : size < c.utf8Size)
    (ends : bytes = text.toByteArray ++ [c].utf8Encode.extract 0 size ++ terminator ++ rest) :
    length bytes = .error (.invalidUtf8 text.utf8ByteSize)

/-- Of all bytes, those before the first NUL are counted by characters, and where they are not the
encoding of characters, the error says how much of them is. What follows the NUL does not matter. -/
theorem measured (bytes : ByteArray) : Measured bytes where
  hasBody := hasBody_beforeNul bytes
  ok_iff count := by
    constructor
    · intro counted
      obtain ⟨chars, encoded, found⟩ | ⟨_, failed, _⟩ := length_cases bytes
      · rw [found] at counted
        exact ⟨chars, Except.ok.inj counted, encoded⟩
      · rw [failed] at counted
        cases counted
    · rintro ⟨chars, rfl, encoded⟩
      exact length_eq_ok (encoded ▸ hasBody_beforeNul bytes)
  invalid unencoded := by
    obtain ⟨chars, encoded, _⟩ | failed := length_cases bytes
    · exact absurd ⟨chars, encoded⟩ unencoded
    · exact failed
  terminated text rest free ends := by
    have encoded := String.utf8Encode_toList (b := text)
    rw [← encoded] at ends
    rw [← String.length_toList]
    exact length_eq_ok ⟨zero_not_mem_utf8Encode free, .inr ⟨rest, ends⟩⟩
  truncated text c size rest free nonempty short ends := by
    have encoded := String.utf8Encode_toList (b := text)
    rw [← String.size_toByteArray, ← encoded]
    rw [← encoded] at ends
    have remains : ([c].utf8Encode.extract 0 size).size ≠ 0 := by
      rw [ByteArray.size_extract, size_utf8Encode_singleton]
      omega
    refine length_eq_error ⟨?_, .inr ⟨rest, ends⟩⟩ (utf8DecodeChar?_truncated short) remains
    rw [ByteArray.data_append, Array.mem_append, not_or]
    exact ⟨zero_not_mem_utf8Encode free, zero_not_mem_truncated nonempty short⟩

/-- The first byte of a two-byte character stands before the terminator and its second byte after it. -/
theorem length_cut_short : length ⟨#[97, 0xC3, 0, 0xA9]⟩ = .error (.invalidUtf8 1) :=
  (measured _).truncated "a" 'é' 1 ⟨#[0xA9]⟩ (by decide) (by decide) (by decide) (by decide)

end SchemeBase.Text
