import Mathlib.Algebra.BigOperators.Group.Finset.Basic
import Mathlib.Algebra.BigOperators.Group.List.Basic
import Mathlib.Data.List.GetD
import Mathlib.Data.List.Induction
import SchemeBase.Proofs.Symbol.WellFormed

/-! # Where spellings live

The shard of a spelling comes from its first eight bytes. The hash takes them as digits in base 31 and
drops what does not fit into 32 bits. Sixteen divides 2³², so what is dropped makes no difference to the
shard, and 31 leaves the remainder -1, so the shard is that of the bytes with alternating signs.
-/

namespace SchemeBase.SymbolTable

open SchemeBase.Symbol

variable {table : SymbolTable} {spelling : String} {symbol : Symbol}

/-- The first eight bytes of a spelling in its encoding, or all of them if there are fewer. The last of
them may be in the middle of a character. -/
def leadingBytes (spelling : String) : List UInt8 :=
  (spelling.toList.flatMap String.utf8EncodeChar).take 8

/-- Bytes as the digits of a number in base 31, the last one counting once. -/
def digitSum (bytes : List UInt8) : Nat :=
  ∑ i ∈ Finset.range bytes.length, (bytes.getD i 0).toNat * 31 ^ (bytes.length - 1 - i)

/-- Bytes with alternating signs, from the last one, which counts once, to the front. -/
def signedSum (bytes : List UInt8) : Int :=
  (bytes.reverse.map fun byte => (byte.toNat : Int)).alternatingSum

/-! ## One more byte -/

theorem digitSum_append (bytes : List UInt8) (byte : UInt8) :
    digitSum (bytes ++ [byte]) = digitSum bytes * 31 + byte.toNat := by
  rw [digitSum, digitSum, List.length_append, List.length_singleton, Finset.sum_range_succ, Finset.sum_mul]
  congr 1
  · refine Finset.sum_congr rfl fun i member => ?_
    have inside := Finset.mem_range.mp member
    have exponent : bytes.length + 1 - 1 - i = bytes.length - 1 - i + 1 := by omega
    rw [List.getD_append _ _ _ _ inside, exponent, Nat.pow_succ, Nat.mul_assoc]
  · simp

theorem signedSum_append (bytes : List UInt8) (byte : UInt8) :
    signedSum (bytes ++ [byte]) = byte.toNat - signedSum bytes := by
  rw [signedSum, List.reverse_append, List.reverse_singleton, List.singleton_append, List.map_cons,
    List.alternatingSum_cons, signedSum]

/-- The hash is the number in base 31 without what does not fit into 32 bits. -/
theorem toNat_foldl_hash (bytes : List UInt8) :
    (bytes.foldl (fun hash byte => hash * 31 + byte.toUInt32) (0 : UInt32)).toNat = digitSum bytes % 2 ^ 32 := by
  induction bytes using List.reverseRecOn with
  | nil => rfl
  | append_singleton bytes byte ih =>
    rw [List.foldl_append, List.foldl_cons, List.foldl_nil, UInt32.toNat_add, UInt32.toNat_mul, ih,
      digitSum_append]
    simp

/-- Sixteen divides 31 + 1. -/
theorem digitSum_emod (bytes : List UInt8) : (digitSum bytes : Int) % 16 = signedSum bytes % 16 := by
  induction bytes using List.reverseRecOn with
  | nil => rfl
  | append_singleton bytes byte ih =>
    rw [digitSum_append, signedSum_append]
    omega

/-! ## The bytes of a spelling -/

theorem toList_toByteArray (spelling : String) :
    spelling.toByteArray.data.toList = spelling.toList.flatMap String.utf8EncodeChar := by
  rw [← String.utf8Encode_toList, List.utf8Encode, List.toList_data_toByteArray]

theorem length_leadingBytes (spelling : String) :
    (leadingBytes spelling).length = min 8 spelling.utf8ByteSize := by
  rw [leadingBytes, List.length_take, ← toList_toByteArray, Array.length_toList]
  rfl

theorem toNat_spellingHash (spelling : String) :
    (spellingHash spelling).toNat = digitSum (leadingBytes spelling) % 2 ^ 32 := by
  rw [spellingHash, ← Array.foldl_toList, toNat_foldl_hash, ByteArray.data_extract, Array.toList_extract,
    toList_toByteArray, List.extract_eq_take_drop]
  rfl

/-- What does not fit into 32 bits is a multiple of sixteen. -/
theorem val_shardOf (spelling : String) : (shardOf spelling).val = digitSum (leadingBytes spelling) % 16 := by
  change (spellingHash spelling).toNat % 16 = _
  rw [toNat_spellingHash, Nat.mod_mod_of_dvd _ (by decide)]

/-- A handle names the shard of its spelling. -/
theorem shard_of_get? (found : table.get? spelling = some symbol) : symbol.shard = shardOf spelling := by
  obtain ⟨slot, _, rfl⟩ := get?_eq_some_iff_slot.mp found
  exact shard_ofParts ..

theorem shard_of_intern (success : (table.intern spelling).1 = .ok symbol) :
    symbol.shard = shardOf spelling := by
  have found := get?_of_intern (Prod.ext success rfl) spelling
  rw [if_pos rfl] at found
  exact shard_of_get? found

/-- The hash of a spelling is that of its first eight bytes, taken as a number in base 31 and cut to 32
bits. Its remainder by sixteen is that of the number itself, and of the sum of the bytes with alternating
signs. This is the shard of all handles of the spelling, whatever the table, and spellings with the same
first eight bytes share it. -/
theorem shardOf_eq_digitSum (spelling : String) :
    let bytes := leadingBytes spelling
    bytes.length = min 8 spelling.utf8ByteSize ∧
    (spellingHash spelling).toNat = digitSum bytes % 2 ^ 32 ∧
    (shardOf spelling).val = digitSum bytes % 16 ∧
    ((shardOf spelling).val : Int) = signedSum bytes % 16 ∧
    (shardOf spelling).val < shardCount ∧
    (∀ (table : SymbolTable) (symbol : Symbol),
      table.get? spelling = some symbol ∨ (table.intern spelling).1 = .ok symbol →
        symbol.shard.val = digitSum bytes % 16) ∧
    ∀ other, leadingBytes other = bytes → shardOf other = shardOf spelling := by
  intro bytes
  have exact := val_shardOf spelling
  refine ⟨length_leadingBytes spelling, toNat_spellingHash spelling, exact, ?_, (shardOf spelling).isLt,
    fun table symbol known => ?_, fun other same => Fin.ext ?_⟩
  · rw [exact, ← digitSum_emod, Int.natCast_emod]
    rfl
  · rw [← exact]
    rcases known with found | success
    · rw [shard_of_get? found]
    · rw [shard_of_intern success]
  · rw [val_shardOf other, same, exact]

/-- The last letters differ only in their second byte, which is the ninth, and the number of the first
eight does not fit into 32 bits. -/
theorem shardOf_eq_digitSum_cut :
    let bytes : List UInt8 := [112, 97, 114, 97, 100, 105, 103, 195]
    leadingBytes "paradigé" = bytes ∧ leadingBytes "paradigà" = bytes ∧ 2 ^ 32 < digitSum bytes ∧
      shardOf "paradigà" = shardOf "paradigé" ∧
      ((create 0).intern "paradigé").1 = .ok (.ofParts 0 1 1) ∧
      (Symbol.ofParts 0 1 1).shard.val = digitSum bytes % 16 := by
  intro bytes
  have first : leadingBytes "paradigé" = bytes := by decide +kernel
  have second : leadingBytes "paradigà" = bytes := by decide +kernel
  have interned : ((create 0).intern "paradigé").1 = .ok (.ofParts 0 1 1) := by decide +kernel
  obtain ⟨_, _, _, _, _, handles, shared⟩ := shardOf_eq_digitSum "paradigé"
  refine ⟨first, second, by decide +kernel, shared _ (second.trans first.symm), interned, ?_⟩
  rw [handles _ _ (.inr interned), first]

end SchemeBase.SymbolTable
