import SchemeBase.Proofs.Text.Length
import SchemeBase.Text.Name

/-! # What the check of a name tells

A name is in order, or it has a NUL, or it has no character, or it has white space and no NUL. These
four cases exclude each other, and the answer of the check tells which of them holds, with the number
of characters in the first one and the byte offset of the earliest offence otherwise.

The check may also measure the name first, as the text of a host is measured. Measuring stops at a NUL,
so a length alone does not tell an empty name from one that starts with NUL, and a name is searched for
NUL whatever its length.
-/

namespace SchemeBase.Text

variable {test : Char → Bool} {chars before after : List Char} {c : Char} {text name : String}
  {start offset : Nat}

/-- The first character of a text that satisfies `test` stands at a byte offset. -/
def FirstAt (test : Char → Bool) (text : String) (offset : Nat) : Prop :=
  ∃ (before : String) (c : Char) (after : String), text = before ++ String.singleton c ++ after ∧
    (∀ earlier ∈ before.toList, test earlier = false) ∧ test c = true ∧ before.utf8ByteSize = offset

/-- The check of a name that measures it first. A name without length is empty, or its first character
is NUL; any other one is searched, for NUL and then for white space. -/
def checkMeasured (name : String) : Except TextError Nat := do
  let count ← length name.toByteArray
  if count = 0 then
    match offset? (· == '\x00') name with
    | some offset => throw (.interiorNul offset)
    | none => throw .empty
  else
    match offset? (· == '\x00') name with
    | some offset => throw (.interiorNul offset)
    | none =>
      match offset? Unicode.isWhiteSpace name with
      | some offset => throw (.whiteSpace offset)
      | none => return count

/-! ## Offsets -/

theorem offsetFrom?_eq_none_iff :
    offsetFrom? test start chars = none ↔ ∀ c ∈ chars, test c = false := by
  induction chars generalizing start with
  | nil => simp [offsetFrom?]
  | cons c chars ih => by_cases here : test c = true <;> simp [offsetFrom?, here, ih]

/-- Bytes are counted up to the first character that satisfies the test. -/
theorem offsetFrom?_append (free : ∀ earlier ∈ before, test earlier = false) (here : test c = true) :
    offsetFrom? test start (before ++ c :: after) = some (start + (String.ofList before).utf8ByteSize) := by
  induction before generalizing start with
  | nil => simp [offsetFrom?, here]
  | cons first before ih =>
    obtain ⟨other, rest⟩ := List.forall_mem_cons.mp free
    rw [List.cons_append, offsetFrom?, other, if_neg Bool.false_ne_true, ih rest, String.ofList_cons,
      String.utf8ByteSize_append, String.utf8ByteSize_singleton, Nat.add_assoc]

theorem offset?_eq_none_iff : offset? test text = none ↔ ∀ c ∈ text.toList, test c = false :=
  offsetFrom?_eq_none_iff

theorem FirstAt.offset?_eq (first : FirstAt test text offset) : offset? test text = some offset := by
  obtain ⟨before, c, after, rfl, free, here, rfl⟩ := first
  have split : (before ++ String.singleton c ++ after).toList = before.toList ++ c :: after.toList := by
    simp
  rw [offset?, split, offsetFrom?_append free here, String.ofList_toList, Nat.zero_add]

theorem exists_firstAt (some_mem : ∃ c ∈ text.toList, test c = true) :
    ∃ offset, FirstAt test text offset := by
  obtain ⟨c, found⟩ := Option.isSome_iff_exists.mp (List.find?_isSome.mpr some_mem)
  obtain ⟨here, before, after, split, free⟩ := List.find?_eq_some_iff_append.mp found
  refine ⟨_, String.ofList before, c, String.ofList after, ?_, ?_, here, rfl⟩
  · rw [← String.ofList_toList (s := text), split, String.ofList_append, String.ofList_cons,
      String.append_assoc]
  · simpa using free

theorem offset?_eq_some_iff : offset? test text = some offset ↔ FirstAt test text offset := by
  refine ⟨fun found => ?_, FirstAt.offset?_eq⟩
  by_cases some_mem : ∃ c ∈ text.toList, test c = true
  · obtain ⟨other, first⟩ := exists_firstAt some_mem
    obtain rfl := Option.some.inj (found.symm.trans first.offset?_eq)
    exact first
  · have none : offset? test text = none := offset?_eq_none_iff.mpr (by simpa using some_mem)
    cases found.symm.trans none

/-- The offset of a character is a boundary between characters. -/
theorem FirstAt.isValid (first : FirstAt test text offset) : (String.Pos.Raw.mk offset).IsValid text := by
  obtain ⟨before, c, after, rfl, _, _, rfl⟩ := first
  rw [String.append_assoc]
  exact String.Pos.Raw.isValid_iff_exists_append.mpr ⟨before, String.singleton c ++ after, rfl, rfl⟩

/-! ## The length of a name -/

/-- A name has a length, and without NUL it counts all of its characters. -/
theorem exists_length_eq (name : String) : ∃ count, length name.toByteArray = .ok count ∧
    ('\x00' ∉ name.toList → count = name.length) := by
  have encoded := String.utf8Encode_toList (b := name)
  by_cases ends : '\x00' ∈ name.toList
  · obtain ⟨before, after, split, free⟩ := List.eq_append_cons_of_mem ends
    refine ⟨before.length, length_eq_ok ⟨zero_not_mem_utf8Encode free, .inr ⟨after.utf8Encode, ?_⟩⟩,
      fun free => absurd ends free⟩
    rw [← encoded, split, List.utf8Encode_append, List.utf8Encode_cons, ← ByteArray.append_assoc]
    rfl
  · refine ⟨name.toList.length, length_eq_ok ⟨zero_not_mem_utf8Encode ends, .inl encoded.symm⟩, fun _ => ?_⟩
    exact String.length_toList

/-- Where the name has a NUL, both checks find it, and otherwise they agree on its length. -/
theorem checkMeasured_eq (name : String) : checkMeasured name = checkName name := by
  obtain ⟨count, measured, counts⟩ := exists_length_eq name
  rw [checkMeasured, measured, checkName]
  change (if count = 0 then _ else _) = _
  cases nul : offset? (· == '\x00') name with
  | some offset => exact ite_self _
  | none =>
    have free := offset?_eq_none_iff.mp nul
    -- Without NUL the whole name is counted, so only the empty one has no length.
    obtain rfl := counts fun mem => absurd (free _ mem) (by decide)
    by_cases nothing : name = ""
    · subst nothing
      rfl
    · have filled : name.length ≠ 0 := fun zero => nothing (String.length_eq_zero_iff.mp zero)
      rw [if_neg filled, if_neg (by simpa using nothing)]
      cases offset? Unicode.isWhiteSpace name <;> rfl

/-! ## Outcomes -/

/-- What becomes of a name, by the first of its offences in the order of the check. -/
inductive Classified (name : String) : Except TextError Nat → Prop
  | interiorNul {offset : Nat} (first : FirstAt (· == '\x00') name offset) :
      Classified name (.error (.interiorNul offset))
  | empty (nothing : name = "") : Classified name (.error .empty)
  | whiteSpace {offset : Nat} (free : '\x00' ∉ name.toList)
      (first : FirstAt Unicode.isWhiteSpace name offset) : Classified name (.error (.whiteSpace offset))
  | ok (filled : name ≠ "") (free : '\x00' ∉ name.toList)
      (clean : ∀ c ∈ name.toList, Unicode.isWhiteSpace c = false) : Classified name (.ok name.toList.length)

theorem nul_not_mem_iff : '\x00' ∉ name.toList ↔ offset? (· == '\x00') name = none := by
  rw [offset?_eq_none_iff]
  exact ⟨fun free c mem => beq_false_of_ne fun nul => free (nul ▸ mem),
    fun free mem => absurd (free _ mem) (by decide)⟩

theorem FirstAt.ne_empty (first : FirstAt test text offset) : text ≠ "" := by
  obtain ⟨before, c, after, rfl, _⟩ := first
  simp

theorem Classified.checkName_eq {outcome : Except TextError Nat} (classified : Classified name outcome) :
    checkName name = outcome := by
  rw [checkName]
  cases classified with
  | interiorNul first => rw [first.offset?_eq]
  | empty nothing =>
    subst nothing
    rfl
  | whiteSpace free first =>
    rw [nul_not_mem_iff.mp free, first.offset?_eq]
    exact if_neg (by simpa using first.ne_empty)
  | ok filled free clean =>
    rw [nul_not_mem_iff.mp free, offset?_eq_none_iff.mpr clean, String.length_toList]
    exact if_neg (by simpa using filled)

theorem exists_classified (name : String) : ∃ outcome, Classified name outcome := by
  cases nul : offset? (· == '\x00') name with
  | some offset => exact ⟨_, .interiorNul (offset?_eq_some_iff.mp nul)⟩
  | none =>
    have free := nul_not_mem_iff.mpr nul
    by_cases nothing : name = ""
    · exact ⟨_, .empty nothing⟩
    · cases blank : offset? Unicode.isWhiteSpace name with
      | some offset => exact ⟨_, .whiteSpace free (offset?_eq_some_iff.mp blank)⟩
      | none => exact ⟨_, .ok nothing free (offset?_eq_none_iff.mp blank)⟩

theorem checkName_eq_iff {outcome : Except TextError Nat} :
    checkName name = outcome ↔ Classified name outcome := by
  refine ⟨?_, Classified.checkName_eq⟩
  rintro rfl
  obtain ⟨outcome, classified⟩ := exists_classified name
  rwa [classified.checkName_eq]

/-- The check of a name answers with its number of characters just when the name has one, no NUL and no
white space. Otherwise the error is the first NUL, wherever it stands, or that the name is empty, or the
first white space. It is never one of the encoding, every offset is a boundary between characters, and
measuring the name first makes no difference. -/
theorem checkName_classified (name : String) :
    (∀ outcome, checkName name = outcome ↔ Classified name outcome) ∧
    (∀ size, checkName name ≠ .error (.invalidUtf8 size)) ∧
    (∀ cause offset, checkName name = .error cause → cause.offset? = some offset →
      (String.Pos.Raw.mk offset).IsValid name) ∧
    checkMeasured name = checkName name := by
  refine ⟨fun outcome => checkName_eq_iff, fun size failed => ?_, fun cause offset failed at_offset => ?_,
    checkMeasured_eq name⟩
  · cases checkName_eq_iff.mp failed
  · cases checkName_eq_iff.mp failed with
    | interiorNul first =>
      cases at_offset
      exact first.isValid
    | empty => cases at_offset
    | whiteSpace _ first =>
      cases at_offset
      exact first.isValid

/-- A NUL behind a blank and behind a character of two bytes comes before the blank. -/
theorem checkName_nul_behind_blank :
    checkName "é \x00x" = .error (.interiorNul 3) ∧ checkMeasured "é \x00x" = .error (.interiorNul 3) ∧
      (String.Pos.Raw.mk 3).IsValid "é \x00x" := by
  obtain ⟨iff, _, boundary, same⟩ := checkName_classified "é \x00x"
  have first : FirstAt (· == '\x00') "é \x00x" 3 := ⟨"é ", '\x00', "x", rfl, by simp, rfl, rfl⟩
  have failed := (iff _).mpr (.interiorNul first)
  exact ⟨failed, same.trans failed, boundary _ _ failed rfl⟩

end SchemeBase.Text
