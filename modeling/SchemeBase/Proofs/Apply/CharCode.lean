import SchemeBase.Proofs.Apply.Comparison

/-! # Characters and their codes

A character has a code, and an integer is the code of at most one character. Two things can keep it
from being one: it is no word of 32 bits, or it is such a word and no scalar value, as the surrogates
are not. Each of the two conversions undoes the other where that one succeeds, and an integer that is no
code is refused as it was given. Characters are ordered as their codes are.
-/

namespace SchemeBase

variable {σ : Type} {code : Int64} {c d : Char} {word : UInt32}

/-- The primitive that answers the code of a character. -/
abbrev charToInteger : Value := .primitive (.builtin (.character .toInteger))

/-- The primitive that answers the character of a code. -/
abbrev integerToChar : Value := .primitive (.builtin (.character .ofInteger))

/-! ## From integers to words to characters -/

/-- An integer as an unsigned word of 32 bits, if it is one. -/
def wordOfCode? (code : Int64) : Option UInt32 :=
  if 0 ≤ code.toInt ∧ code.toInt.toNat < UInt32.size then some (UInt32.ofNat code.toInt.toNat) else none

/-- The character that a word is the scalar value of, if there is one. -/
def charOfWord? (word : UInt32) : Option Char :=
  if valid : word.isValidChar then some ⟨word, valid⟩ else none

theorem wordOfCode?_eq_some_iff : wordOfCode? code = some word ↔ code.toInt = word.toNat := by
  have bounded := word.toNat_lt
  unfold wordOfCode? UInt32.size
  split
  · next fits =>
    rw [Option.some_inj, ← UInt32.toNat_inj, UInt32.toNat_ofNat']
    omega
  · next outside => exact iff_of_false nofun (by omega)

theorem charOfWord?_eq_some_iff : charOfWord? word = some c ↔ word = c.val := by
  unfold charOfWord?
  split
  · rw [Option.some_inj, Char.ext_iff]
  · next invalid =>
    refine iff_of_false nofun ?_
    rintro rfl
    exact invalid c.valid

/-- One check of the range comes to the same as narrowing the integer and then checking the word. An
integer that only its low 32 bits would make a code is not narrowed. -/
theorem charOfCode?_eq_bind (code : Int64) :
    charOfCode? code = (wordOfCode? code).bind charOfWord? := by
  apply Option.ext
  intro c
  simp only [Option.bind_eq_some_iff, wordOfCode?_eq_some_iff, charOfWord?_eq_some_iff, exists_eq_right]
  unfold charOfCode?
  cases code.toInt with
  | negSucc n => exact iff_of_false nofun nofun
  | ofNat n =>
    change (if n.isValidChar then some (Char.ofNat n) else none) = some c ↔ (n : Int) = c.toNat
    rw [Int.natCast_inj]
    split
    · next valid =>
      rw [Option.some_inj, ← Char.toNat_inj, Char.ofNat, dif_pos valid]
      exact Iff.rfl
    · next invalid =>
      refine iff_of_false nofun ?_
      rintro rfl
      exact invalid c.valid

theorem charOfCode?_eq_some_iff : charOfCode? code = some c ↔ code.toInt = c.toNat := by
  simp only [charOfCode?_eq_bind, Option.bind_eq_some_iff, wordOfCode?_eq_some_iff,
    charOfWord?_eq_some_iff, exists_eq_right, Char.toNat_val]

/-- The scalar values: up to the surrogates, and behind them up to the last character. -/
def IsScalar (code : Int64) : Prop :=
  (0 ≤ code ∧ code ≤ 0xD7FF) ∨ (0xE000 ≤ code ∧ code ≤ 0x10FFFF)

theorem isSome_charOfCode?_iff : (charOfCode? code).isSome ↔ IsScalar code := by
  simp only [Option.isSome_iff_exists, charOfCode?_eq_some_iff, IsScalar, Int64.le_iff_toInt_le,
    Int64.reduceToInt]
  constructor
  · rintro ⟨c, same⟩
    have valid : c.toNat < 0xD800 ∨ (0xDFFF < c.toNat ∧ c.toNat < 0x110000) := c.valid
    omega
  · intro scalar
    have valid : code.toInt.toNat.isValidChar := by
      unfold Nat.isValidChar
      omega
    refine ⟨Char.ofNatAux code.toInt.toNat valid, ?_⟩
    change code.toInt = (code.toInt.toNat : Int)
    omega

/-! ## Codes of characters -/

/-- The code of a character. -/
abbrev codeOfChar (c : Char) : Int64 :=
  Int64.ofNat c.toNat

theorem toInt_codeOfChar (c : Char) : (codeOfChar c).toInt = c.toNat := by
  have valid : c.toNat < 0xD800 ∨ (0xDFFF < c.toNat ∧ c.toNat < 0x110000) := c.valid
  exact Int64.toInt_ofNat_of_lt (by omega)

/-- Characters are ordered as their codes are. -/
theorem Comparison.orders_codeOfChar_iff (relation : Comparison) :
    relation.Orders (codeOfChar c) (codeOfChar d) ↔ relation.Orders c d := by
  cases relation <;>
    simp only [Orders, ← Int64.toInt_inj, Int64.lt_iff_toInt_lt, Int64.le_iff_toInt_le, toInt_codeOfChar,
      Int.natCast_inj, Int.ofNat_lt, Int.ofNat_le, Char.toNat_inj, Char.lt_def, Char.le_def,
      UInt32.lt_iff_toNat_lt, UInt32.le_iff_toNat_le, Char.toNat_val]

namespace Executor

variable (executor : Executor σ) (machine : Machine σ)

theorem apply_charToInteger (c : Char) :
    executor.apply charToInteger [.char c] machine = (.ok (.integer (codeOfChar c)), machine) :=
  (apply_of_finish rfl machine).trans rfl

theorem apply_integerToChar (code : Int64) :
    executor.apply integerToChar [.integer code] machine =
      (match charOfCode? code with
        | some c => .ok (.char c)
        | none => .error (.invalidCharCode code), machine) := by
  have rule : Builtin.step? executor.table (.character .ofInteger) [.integer code] = some (.ofResult
      (match charOfCode? code with
        | some c => return .char c
        | none => throw (.invalidCharCode code))) := rfl
  rw [apply_builtin rule]
  cases charOfCode? code <;> rfl

/-- A scalar value becomes the character whose code it is. -/
theorem exists_apply_integerToChar (scalar : IsScalar code) :
    ∃ converted, codeOfChar converted = code ∧
      executor.apply integerToChar [.integer code] machine = (.ok (.char converted), machine) := by
  obtain ⟨converted, found⟩ := Option.isSome_iff_exists.mp (isSome_charOfCode?_iff.mpr scalar)
  refine ⟨converted, Int64.toInt_inj.mp ?_, ?_⟩
  · rw [toInt_codeOfChar, charOfCode?_eq_some_iff.mp found]
  · rw [apply_integerToChar, found]

/-- Any other integer is refused as it was given. -/
theorem apply_integerToChar_of_not_scalar (other : ¬IsScalar code) :
    executor.apply integerToChar [.integer code] machine = (.error (.invalidCharCode code), machine) := by
  rw [← isSome_charOfCode?_iff, Option.not_isSome_iff_eq_none] at other
  rw [apply_integerToChar, other]

/-- The comparison of two characters is that of their codes. -/
theorem apply_charComparison (relation : Comparison) (c d : Char) :
    ∃ answer, executor.apply (Comparer.chars false relation).procedure [.char c, .char d] machine =
        (.ok (.boolean answer), machine) ∧
      (answer = true ↔ relation.Orders (codeOfChar c) (codeOfChar d)) := by
  have typed : ∀ arg ∈ [Value.char c, .char d], arg.type = (Comparer.chars false relation).expected := by
    simp [Comparer.expected, Value.type]
  obtain ⟨answer, outcome, holds⟩ := Comparer.apply_typed executor machine (by simp) typed
  refine ⟨answer, outcome, ?_⟩
  rw [holds, List.pairwise_pair, Comparer.holds_wrap_iff_chars, relation.orders_codeOfChar_iff]
  exact Iff.rfl

/-- On all 64-bit integers: an integer becomes a character just when it is a scalar value, and then it is
the code of the character. Any other integer is the error, as it was given. The code of a character
becomes the character, and characters compare as their codes do. Nothing is changed by any of this. -/
theorem apply_charCodes (executor : Executor σ) (code : Int64) (c d : Char) (machine : Machine σ) :
    let outcome := executor.apply integerToChar [.integer code] machine
    ((∃ value, outcome.1 = .ok value) ↔ IsScalar code) ∧
    (IsScalar code → ∃ value, outcome = (.ok value, machine) ∧ value.type = .char ∧
      executor.apply charToInteger [value] machine = (.ok (.integer code), machine)) ∧
    (¬IsScalar code → outcome = (.error (.invalidCharCode code), machine)) ∧
    ∃ first second : Int64,
      executor.apply charToInteger [.char c] machine = (.ok (.integer first), machine) ∧
      executor.apply charToInteger [.char d] machine = (.ok (.integer second), machine) ∧
      executor.apply integerToChar [.integer first] machine = (.ok (.char c), machine) ∧
      ∀ relation, ∃ answer,
        executor.apply (Comparer.chars false relation).procedure [.char c, .char d] machine =
          (.ok (.boolean answer), machine) ∧ (answer = true ↔ relation.Orders first second) := by
  intro outcome
  have success (scalar : IsScalar code) := executor.exists_apply_integerToChar machine scalar
  have refusal (other : ¬IsScalar code) := executor.apply_integerToChar_of_not_scalar machine other
  refine ⟨⟨fun ⟨value, answered⟩ => ?_, fun scalar => ?_⟩, fun scalar => ?_, refusal,
    codeOfChar c, codeOfChar d, executor.apply_charToInteger machine c,
    executor.apply_charToInteger machine d, ?_,
    fun relation => executor.apply_charComparison machine relation c d⟩
  · by_contra other
    cases answered.symm.trans (congrArg Prod.fst (refusal other))
  · obtain ⟨converted, _, answered⟩ := success scalar
    exact ⟨_, congrArg Prod.fst answered⟩
  · obtain ⟨converted, back, answered⟩ := success scalar
    exact ⟨_, answered, rfl, back ▸ executor.apply_charToInteger machine converted⟩
  · rw [apply_integerToChar, charOfCode?_eq_some_iff.mpr (toInt_codeOfChar c)]

/-- The first integer behind the surrogates is a code. The code of a letter plus 2³² has the low 32 bits of
that code and is refused as it is. -/
theorem apply_charCodes_edges :
    let executor : Executor Unit := .withoutEvaluator 0 fun _ _ => return .unspecified
    let machine : Machine Unit := ⟨{}, ()⟩
    IsScalar 0xE000 ∧ ¬IsScalar 0x100000041 ∧
      (∃ value, executor.apply integerToChar [.integer 0xE000] machine = (.ok value, machine) ∧
        executor.apply charToInteger [value] machine = (.ok (.integer 0xE000), machine)) ∧
      executor.apply integerToChar [.integer 0x100000041] machine =
        (.error (.invalidCharCode 0x100000041), machine) := by
  intro executor machine
  have scalar : IsScalar 0xE000 := .inr (by decide)
  have other : ¬IsScalar 0x100000041 := by
    unfold IsScalar
    decide
  obtain ⟨_, success, _⟩ := executor.apply_charCodes 0xE000 'a' 'b' machine
  obtain ⟨_, _, refusal, _⟩ := executor.apply_charCodes 0x100000041 'a' 'b' machine
  obtain ⟨value, answered, _, back⟩ := success scalar
  exact ⟨scalar, other, ⟨value, answered, back⟩, refusal other⟩

end Executor

end SchemeBase
