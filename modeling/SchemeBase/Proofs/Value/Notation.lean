import Std.Data.String.ToInt
import SchemeBase.Value.Written

/-! # Readable notations

A notation is readable if a text that starts with it shows what is noted and where the notation ends,
provided that a delimiter or nothing follows. Integers and markers are words, which end where a
delimiter stands; the digits of a number end at whatever else follows. The names of characters are words,
too. A character without a name may itself be a delimiter, but it is only one. A string ends at the first
quote without a backslash.
-/

namespace SchemeBase

theorem SpecialForm.keyword_injective : Function.Injective keyword := by
  intro one other same
  have inverse (form : SpecialForm) : ofKeyword? form.keyword = some form := by
    cases form <;> decide
  exact Option.some.inj ((inverse one).symm.trans ((congrArg _ same).trans (inverse other)))

namespace Text

/-- A character that ends a word: what stands between the elements of a list and behind the last. -/
def isDelimiter (c : Char) : Bool :=
  c == ' ' || c == ')'

/-- A text that may follow a written value: it is empty or starts with a delimiter. -/
def Ends (rest : List Char) : Prop :=
  ∀ c ∈ rest.head?, isDelimiter c = true

/-- A notation is readable if a text that starts with it tells what is noted and where it ends. -/
def Readable {α : Type} (notes : α → String) : Prop :=
  ∀ a b r s, Ends r → Ends s → (notes a).toList ++ r = (notes b).toList ++ s → a = b ∧ r = s

/-- A text without delimiters. -/
def Word (text : List Char) : Prop :=
  ∀ c ∈ text, isDelimiter c = false

instance (text : List Char) : Decidable (Word text) :=
  List.decidableBAll _ text

/-- One text has one way to start with a run of characters of a kind, when no such character follows the
run. -/
theorem append_inj_of_stop {p : Char → Bool} {one other r s : List Char}
    (left : ∀ c ∈ one, p c = true) (right : ∀ c ∈ other, p c = true)
    (stopR : ∀ c ∈ r.head?, p c = false) (stopS : ∀ c ∈ s.head?, p c = false)
    (same : one ++ r = other ++ s) : one = other ∧ r = s := by
  have behind {rest : List Char} (stop : ∀ c ∈ rest.head?, p c = false) : rest.takeWhile p = [] := by
    cases rest with
    | nil => rfl
    | cons c rest => exact List.takeWhile_cons_of_neg (by simp [stop c rfl])
  have runs := congrArg (List.takeWhile p) same
  rw [List.takeWhile_append_of_pos left, List.takeWhile_append_of_pos right, behind stopR, behind stopS,
    List.append_nil, List.append_nil] at runs
  subst runs
  exact ⟨rfl, List.append_cancel_left same⟩

theorem Word.append_inj {one other r s : List Char} (left : Word one) (right : Word other)
    (endsR : Ends r) (endsS : Ends s) (same : one ++ r = other ++ s) : one = other ∧ r = s := by
  refine append_inj_of_stop (p := (!isDelimiter ·)) ?_ ?_ ?_ ?_ same
  · exact fun c member => by rw [left c member]; rfl
  · exact fun c member => by rw [right c member]; rfl
  · exact fun c first => by rw [endsR c first]; rfl
  · exact fun c first => by rw [endsS c first]; rfl

/-- Different words are a readable notation, -/
theorem readable_of_word {α : Type} {notes : α → String} (word : ∀ a, Word (notes a).toList)
    (distinct : Function.Injective notes) : Readable notes := by
  intro a b r s endsR endsS same
  obtain ⟨words, rests⟩ := (word a).append_inj (word b) endsR endsS same
  exact ⟨distinct (String.toList_inj.mp words), rests⟩

/-- and a notation stays readable behind a common start. -/
theorem Readable.behind {α : Type} {notes : α → String} (readable : Readable notes)
    (start : String) : Readable fun a => start ++ notes a := by
  intro a b r s endsR endsS same
  rw [String.toList_append, String.toList_append, List.append_assoc, List.append_assoc] at same
  exact readable a b r s endsR endsS (List.append_cancel_left same)

/-! ## Integers and markers -/

theorem isDigit_of_mem_toString (n : Nat) : ∀ c ∈ (toString n).toList, c.isDigit = true := by
  rw [Nat.toString_eq_repr, Nat.toList_repr]
  exact fun c member => Nat.isDigit_of_mem_toDigits (by decide) (by decide) member

/-- A natural number is read off its digits up to a character that is none. -/
theorem toString_append_inj {m n : Nat} {c d : Char} {r s : List Char} (stopC : c.isDigit = false)
    (stopD : d.isDigit = false)
    (same : (toString m).toList ++ c :: r = (toString n).toList ++ d :: s) :
    m = n ∧ c :: r = d :: s := by
  obtain ⟨digits, rests⟩ := append_inj_of_stop (isDigit_of_mem_toString m) (isDigit_of_mem_toString n)
    (by rintro _ ⟨⟩; exact stopC) (by rintro _ ⟨⟩; exact stopD) same
  rw [Nat.toString_eq_repr, Nat.toString_eq_repr] at digits
  exact ⟨Nat.repr_injective (String.toList_inj.mp digits), rests⟩

/-- An integer is written with at least one character, and all of them are digits or a sign. -/
theorem toList_toString_int (n : Int) : ∃ first rest, (toString n).toList = first :: rest ∧
    ∀ c ∈ first :: rest, c = '-' ∨ c.isDigit = true := by
  rw [Int.toString_eq_repr, Int.repr_eq_if, ← Nat.toString_eq_repr, ← Nat.toString_eq_repr]
  split
  · cases shape : (toString n.toNat).toList with
    | nil =>
      rw [Nat.toString_eq_repr, Nat.toList_repr] at shape
      exact absurd shape Nat.toDigits_ne_nil
    | cons first rest =>
      exact ⟨first, rest, rfl, fun c member => .inr (isDigit_of_mem_toString _ c (shape ▸ member))⟩
  · refine ⟨'-', (toString (-n).toNat).toList, by rw [String.toList_append]; rfl, fun c member => ?_⟩
    exact (List.mem_cons.mp member).imp_right (isDigit_of_mem_toString _ c)

/-- The decimal form of an integer is a word. -/
theorem readable_integer : Readable fun n : Int64 => toString n.toInt := by
  apply readable_of_word
  · intro n c member
    obtain ⟨first, rest, shape, all⟩ := toList_toString_int n.toInt
    rw [shape] at member
    rcases all c member with rfl | digit
    · rfl
    · simp only [isDelimiter, Bool.or_eq_false_iff, beq_eq_false_iff_ne]
      constructor <;> rintro rfl <;> cases digit
  · intro n m same
    simp only [Int.toString_eq_repr] at same
    exact Int64.toInt_inj.mp (Int.repr_injective same)

theorem readable_marker :
    Readable fun form : SpecialForm => "#<syntax " ++ (form.keyword ++ ">") := by
  apply Readable.behind
  apply readable_of_word
  · intro form
    cases form <;> decide
  · intro one other same
    exact SpecialForm.keyword_injective (String.append_left_inj _ |>.mp same)

/-! ## Characters -/

/-- The characters that are written by name. -/
def charNames : List (Char × String) :=
  [(' ', "space"), ('\n', "newline"), ('\t', "tab"), ('\r', "return"), ('\x00', "null"),
    ('\x07', "alarm"), ('\x08', "backspace"), ('\x1b', "escape"), ('\x7f', "delete")]

theorem charText_cases (c : Char) :
    (∃ name, (c, name) ∈ charNames ∧ (charText c).toList = '#' :: '\\' :: name.toList) ∨
      (charText c).toList = ['#', '\\', c] := by
  unfold charText
  rw [String.toList_append]
  split
  all_goals first | exact .inl ⟨_, by decide, rfl⟩ | exact .inr (by simp)

/-- Names are words of several letters, and no two characters have one name. -/
theorem charNames_distinct : ∀ entry ∈ charNames, Word entry.2.toList ∧ 1 < entry.2.length ∧
    ∀ other ∈ charNames, entry.2 = other.2 → entry.1 = other.1 := by
  decide

/-- The first letter of a name is no character that stands alone, since another letter follows it. -/
theorem charNames_ne_raw {c d : Char} {name : String} {r s : List Char}
    (named : (c, name) ∈ charNames) (ends : Ends s) : name.toList ++ r ≠ d :: s := by
  obtain ⟨word, long, _⟩ := charNames_distinct _ named
  intro same
  rw [← String.length_toList] at long
  match shape : name.toList with
  | [] | [_] => simp [shape] at long
  | first :: second :: rest =>
    rw [shape] at same
    cases same
    have letter := word second (by simp [shape])
    rw [ends second rfl] at letter
    cases letter

theorem readable_char : Readable charText := by
  intro a b r s endsR endsS same
  obtain ⟨name, named, textA⟩ | textA := charText_cases a <;>
    obtain ⟨other, otherNamed, textB⟩ | textB := charText_cases b <;>
    rw [textA, textB] at same <;>
    have same := List.tail_eq_of_cons_eq (List.tail_eq_of_cons_eq same)
  · have words := charNames_distinct _ named
    obtain ⟨names, rests⟩ := words.1.append_inj (charNames_distinct _ otherNamed).1 endsR endsS same
    exact ⟨words.2.2 _ otherNamed (String.toList_inj.mp names), rests⟩
  · exact absurd same (charNames_ne_raw named endsS)
  · exact absurd same.symm (charNames_ne_raw otherNamed endsR)
  · cases same
    exact ⟨rfl, rfl⟩

/-! ## Strings -/

/-- The characters that take a backslash inside a string, with what stands behind it. -/
def stringEscapes : List (Char × Char) :=
  [('\x22', '\x22'), ('\\', '\\'), ('\n', 'n'), ('\t', 't')]

theorem stringCharText_cases (c : Char) :
    (∃ mark, (c, mark) ∈ stringEscapes ∧ (stringCharText c).toList = ['\\', mark]) ∨
      (c ≠ '\x22' ∧ c ≠ '\\' ∧ (stringCharText c).toList = [c]) := by
  unfold stringCharText
  split
  · exact .inl ⟨_, by decide, rfl⟩
  · exact .inl ⟨_, by decide, rfl⟩
  · exact .inl ⟨_, by decide, rfl⟩
  · exact .inl ⟨_, by decide, rfl⟩
  · next quote slash _ _ => exact .inr ⟨quote, slash, by simp⟩

theorem stringEscapes_distinct : ∀ entry ∈ stringEscapes, ∀ other ∈ stringEscapes,
    entry.2 = other.2 → entry.1 = other.1 := by
  decide

/-- A character inside a string is told from what follows, and from the end of the string. -/
theorem stringCharText_append_inj {a b : Char} {r s : List Char}
    (same : (stringCharText a).toList ++ r = (stringCharText b).toList ++ s) : a = b ∧ r = s := by
  obtain ⟨mark, escaped, textA⟩ | ⟨_, plainA, textA⟩ := stringCharText_cases a <;>
    obtain ⟨other, otherEscaped, textB⟩ | ⟨_, plainB, textB⟩ := stringCharText_cases b <;>
    rw [textA, textB] at same <;> cases same
  · exact ⟨stringEscapes_distinct _ escaped _ otherEscaped rfl, rfl⟩
  · exact absurd rfl plainB
  · exact absurd rfl plainA
  · exact ⟨rfl, rfl⟩

theorem stringCharText_ne_quote (c : Char) (r s : List Char) :
    (stringCharText c).toList ++ r ≠ '\x22' :: s := by
  obtain ⟨_, _, text⟩ | ⟨plain, _, text⟩ := stringCharText_cases c <;> rw [text] <;> intro same <;>
    cases same
  exact plain rfl

/-- Inside a string no text is the start of another, as only its end is a bare quote. -/
theorem escaped_append_inj (one other : List Char) {r s : List Char}
    (same : one.flatMap (stringCharText · |>.toList) ++ '\x22' :: r =
      other.flatMap (stringCharText · |>.toList) ++ '\x22' :: s) : one = other ∧ r = s := by
  induction one generalizing other with
  | nil =>
    cases other with
    | nil => exact ⟨rfl, List.tail_eq_of_cons_eq same⟩
    | cons d other =>
      rw [List.flatMap_cons, List.append_assoc] at same
      exact absurd same.symm (stringCharText_ne_quote d _ _)
  | cons c one ih =>
    cases other with
    | nil =>
      rw [List.flatMap_cons, List.append_assoc] at same
      exact absurd same (stringCharText_ne_quote c _ _)
    | cons d other =>
      rw [List.flatMap_cons, List.flatMap_cons, List.append_assoc, List.append_assoc] at same
      obtain ⟨rfl, rests⟩ := stringCharText_append_inj same
      obtain ⟨rfl, rfl⟩ := ih other rests
      exact ⟨rfl, rfl⟩

theorem readable_string : Readable stringText := by
  intro a b r s _ _ same
  simp only [stringText, String.toList_append, String.toList_join, List.flatMap_map] at same
  obtain ⟨texts, rests⟩ := escaped_append_inj a.toList b.toList (by simpa using same)
  exact ⟨String.toList_inj.mp texts, rests⟩

end Text

end SchemeBase
