import Mathlib.Data.List.Forall2
import SchemeBase.Proofs.Value.Spine
import SchemeBase.Proofs.Value.Written

/-! # The notation of lists

A pair is written as a list: its spine between parentheses, the elements apart by single spaces, and an
end other than the empty list behind a dot. The text comes from a walk along the spine that only knows
whether it is at the first element. The same holds of the elements, so the written form of a value is
the one text that the notation has for it, and no list is written behind a dot.
-/

namespace SchemeBase.Value

variable {table : SymbolTable} {value tail : Value} {items : List Value} {text : String}

/-! ## The walk along a spine -/

variable (table) in
/-- Goes along a spine behind the text `before`. A space stands in front of every element but the first,
and the walk ends with the parenthesis, behind the dot and the end where that is not the empty list. -/
def walk (before : String) (first : Bool) : Value → String
  | pair _ car cdr => walk ((if first then before else before ++ " ") ++ car.written table) false cdr
  | null => before ++ ")"
  | tail => before ++ " . " ++ tail.written table ++ ")"

variable (table) in
/-- What is written behind the last element of a spine. -/
def endText (tail : Value) : String :=
  if tail.type = .null then "" else " . " ++ tail.written table

theorem walk_of_ne_pair (before : String) (first : Bool) (single : tail.type ≠ .pair) :
    walk table before first tail = before ++ endText table tail ++ ")" := by
  cases tail with
  | pair => exact absurd rfl single
  | null => simp [walk, endText, type]
  | _ => simp [walk, endText, type, String.append_assoc]

/-- Behind the first element the walk writes the rest of the list. -/
theorem walk_false (before : String) (value : Value) :
    walk table before false value = before ++ value.writtenTail table := by
  cases value with
  | pair id car cdr =>
    rw [walk, walk_false _ cdr, writtenTail_pair]
    simp only [Bool.false_eq_true, if_false, String.append_assoc]
  | null => rfl
  | _ =>
    rw [writtenTail_of_ne (by simp [type]) (by simp [type])]
    simp only [walk, String.append_assoc]

/-- A pair is written by the walk along its spine. -/
theorem written_pair_eq_walk (id : Identity) (car cdr : Value) :
    (pair id car cdr).written table = walk table "(" true (pair id car cdr) := by
  rw [written_pair, walk, walk_false, if_pos rfl]

/-- One more text at the end of others. -/
theorem intercalate_concat (texts : List String) (text : String) :
    " ".intercalate (texts ++ [text]) =
      (if texts.isEmpty then " ".intercalate texts else " ".intercalate texts ++ " ") ++ text := by
  cases texts with
  | nil => simp
  | cons first rest =>
    rw [String.intercalate_append_of_ne_nil (List.cons_ne_nil _ _) (List.cons_ne_nil _ _),
      String.intercalate_singleton]
    rfl

/-- The walk keeps to the notation: what is written so far are the elements so far, apart by spaces, and
the next one is the first just when there are none. -/
theorem Spine.walk_eq (spine : Spine tail items value) (single : tail.type ≠ .pair)
    (done : List String) :
    walk table ("(" ++ " ".intercalate done) done.isEmpty value =
      "(" ++ " ".intercalate (done ++ items.map (written table)) ++ endText table tail ++ ")" := by
  induction spine generalizing done with
  | ends => rw [walk_of_ne_pair _ _ single, List.map_nil, List.append_nil]
  | pair id car rest ih =>
    have next := ih (done ++ [car.written table])
    rw [List.append_assoc, List.singleton_append, ← List.map_cons] at next
    rw [← next, walk, intercalate_concat]
    cases done <;> simp [String.append_assoc]

theorem Spine.written_eq (spine : Spine tail items value) (given : items ≠ [])
    (single : tail.type ≠ .pair) :
    value.written table =
      "(" ++ " ".intercalate (items.map (written table)) ++ endText table tail ++ ")" := by
  cases spine with
  | ends => exact absurd rfl given
  | pair id car rest =>
    have walked := @Spine.walk_eq table _ _ _ (.pair id car rest) single []
    rw [written_pair_eq_walk]
    simpa using walked

/-! ## At every depth -/

/-- What a value looks like. A value that is no pair has a text of its own. All others are lists of what
looks like their elements, with a dot in front of an end that is not the empty list. -/
inductive Noted (table : SymbolTable) : Value → String → Prop
  | single {value : Value} (single : value.type ≠ .pair) : Noted table value (leafText table value)
  | list {items : List Value} {texts : List String} {value : Value} (given : items ≠ [])
      (spine : Spine null items value) (elements : List.Forall₂ (Noted table) items texts) :
      Noted table value ("(" ++ " ".intercalate texts ++ ")")
  | dotted {items : List Value} {texts : List String} {tail value : Value} {text : String}
      (given : items ≠ []) (spine : Spine tail items value) (last : tail.type ≠ .pair)
      (unclosed : tail.type ≠ .null) (elements : List.Forall₂ (Noted table) items texts)
      (behind : Noted table tail text) :
      Noted table value ("(" ++ " ".intercalate texts ++ " . " ++ text ++ ")")

/-- There is nothing else that a value looks like but its written form. -/
theorem Noted.eq_written (noted : Noted table value text) : text = value.written table := by
  -- The elements have a text each, so what is said of a list of texts is said element by element.
  refine @Noted.rec table (fun value text _ => text = value.written table)
    (fun items texts _ => texts = items.map (written table)) ?single ?list ?dotted ?nil ?cons _ _ noted
  case single =>
    intro value single
    exact (written_of_ne_pair single).symm
  case list =>
    intro items texts value given spine elements ih
    rw [spine.written_eq given (by simp [type]), ih]
    simp [endText, type]
  case dotted =>
    intro items texts tail value text given spine last unclosed elements behind ih end_ih
    rw [spine.written_eq given last, ih, end_ih, endText, if_neg unclosed]
    simp only [String.append_assoc]
  case nil => rfl
  case cons =>
    intro item text items texts head rest ih ihs
    rw [ih, ihs, List.map_cons]

/-- By recursion on the size of the value, as its elements are anywhere along its spine. -/
theorem noted_written (table : SymbolTable) (value : Value) : Noted table value (value.written table) := by
  obtain ⟨items, tail, last, spine⟩ := exists_spine value
  by_cases given : items = []
  · subst given
    cases spine
    rw [written_of_ne_pair last]
    exact .single last
  · have smaller := spine.size_lt
    have elements : List.Forall₂ (Noted table) items (items.map (written table)) :=
      List.forall₂_map_right_iff.mpr (List.forall₂_same.mpr fun item member =>
        have := smaller.1 item member
        noted_written table item)
    rw [spine.written_eq given last, endText]
    split
    · next closed =>
      cases tail <;> cases closed
      simpa using Noted.list given spine elements
    · next unclosed =>
      have := smaller.2 given
      have behind := noted_written table tail
      simpa [String.append_assoc] using Noted.dotted given spine last unclosed elements behind
termination_by value.size

/-- The written form of a chain of pairs is flat, however long the chain is and whatever its elements and
its end are. With what the elements look like in turn, it is the one text for a value. So where the cdr of
a pair is a pair, its list goes on behind a space without a parenthesis of its own, and never behind a
dot. -/
theorem written_spine (table : SymbolTable) :
    (∀ items tail value, items ≠ [] → tail.type ≠ .pair → Spine tail items value →
      value.written table = "(" ++ " ".intercalate (items.map (written table)) ++
        (if tail.type = .null then "" else " . " ++ tail.written table) ++ ")") ∧
    (∀ value text, Noted table value text ↔ text = value.written table) ∧
    ∀ id car other second cdr, ∃ rest,
      (pair other second cdr).written table = "(" ++ rest ∧
      (pair id car (pair other second cdr)).written table = "(" ++ car.written table ++ " " ++ rest ∧
      (pair id car (pair other second cdr)).written table ≠
        "(" ++ car.written table ++ " . " ++ (pair other second cdr).written table ++ ")" := by
  refine ⟨fun items tail value given single spine => spine.written_eq given single,
    fun value text => ⟨Noted.eq_written, ?_⟩, fun id car other second cdr => ?_⟩
  · rintro rfl
    exact noted_written table value
  · have inner : (pair other second cdr).written table =
        "(" ++ (second.written table ++ cdr.writtenTail table) := by
      rw [written_pair, String.append_assoc]
    have outer : (pair id car (pair other second cdr)).written table =
        "(" ++ car.written table ++ " " ++ (second.written table ++ cdr.writtenTail table) := by
      rw [written_pair, writtenTail_pair]
      simp only [String.append_assoc]
    refine ⟨_, inner, outer, fun dotted => ?_⟩
    -- The dotted text would be longer by a dot, a space and two parentheses.
    have lengths := congrArg String.length dotted
    rw [outer, inner] at lengths
    simp only [String.length_append] at lengths
    have one : " ".length = 1 ∧ "(".length = 1 ∧ ")".length = 1 ∧ " . ".length = 3 := ⟨rfl, rfl, rfl, rfl⟩
    omega

/-- A chain of two pairs that ends in a string, with a pair and the empty list for its elements. -/
theorem written_spine_nested :
    let table : SymbolTable := .bare 0
    let inner : Value := .pair 0 (.boolean true) (.char 'a')
    let whole : Value := .pair 1 inner (.pair 2 .null (.string 3 "x"))
    let text := "((#t . #\\a) () . \"x\")"
    [inner, .null] ≠ [] ∧ (Value.string 3 "x").type ≠ .pair ∧ Spine (.string 3 "x") [inner, .null] whole ∧
      whole.written table = text ∧ Noted table whole text := by
  intro table inner whole text
  have given : [inner, .null] ≠ [] := List.cons_ne_nil _ _
  have spine : Spine (.string 3 "x") [inner, .null] whole := .pair 1 inner (.pair 2 .null .ends)
  obtain ⟨flat, noted, _⟩ := written_spine table
  have shown : whole.written table = text := (flat _ _ whole given (by decide) spine).trans (by decide +kernel)
  exact ⟨given, by decide, spine, shown, (noted whole text).mpr shown.symm⟩

end SchemeBase.Value
