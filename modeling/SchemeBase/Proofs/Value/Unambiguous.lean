import SchemeBase.Proofs.Value.Equal
import SchemeBase.Proofs.Value.Notation
import SchemeBase.Proofs.Value.Written

/-! # Data is written unambiguously

Data are the values without symbols, procedures and conditions. Different data have different
written forms. The first characters of a written form tell the type of the value. A datum without
parts ends before a delimiter, or says itself where it ends, as a string does between its quotes; so
a list falls into its elements again, and a dot that stands alone can only announce a last tail.

Symbols are left out with reason: they are written bare, and may be spelled like anything else.
-/

namespace SchemeBase

open SchemeBase.Text

namespace Value

variable {a b value : Value} {t u table : SymbolTable} {r s rest : List Char}

/-! ## Values without parts -/

/-- Data without parts. -/
inductive Atom : Value → Prop
  | null : Atom null
  | unspecified : Atom unspecified
  | boolean (value : Bool) : Atom (boolean value)
  | char (value : Char) : Atom (char value)
  | integer (value : Int64) : Atom (integer value)
  | marker (form : SpecialForm) : Atom (marker form)
  | string (id : Identity) (text : String) : Atom (string id text)

theorem Atom.type_ne_pair (atom : value.Atom) : value.type ≠ .pair := by
  cases atom <;> simp [type]

/-- The type of a value, read off the start of its written form. No value is written with a
closing parenthesis or a dot in front. -/
def typeAt : List Char → Option ValueType
  | '(' :: ')' :: _ => some .null
  | '(' :: _ => some .pair
  | '#' :: 't' :: _ | '#' :: 'f' :: _ => some .boolean
  | '#' :: '\\' :: _ => some .char
  | '#' :: '<' :: 'u' :: _ => some .unspecified
  | '#' :: '<' :: 's' :: _ => some .marker
  | '\x22' :: _ => some .string
  | c :: _ => if c = '-' ∨ c.isDigit then some .integer else none
  | [] => none

theorem typeAt_of_digit {first : Char} (digit : first = '-' ∨ first.isDigit = true)
    (rest : List Char) : typeAt (first :: rest) = some .integer := by
  have apart : first ≠ '(' ∧ first ≠ '#' ∧ first ≠ '\x22' := by
    refine ⟨?_, ?_, ?_⟩ <;> rintro rfl <;> simp at digit
  simp [typeAt, apart, digit]

theorem Atom.typeAt_leafText (atom : value.Atom) (rest : List Char) :
    typeAt ((leafText table value).toList ++ rest) = some value.type := by
  cases atom with
  | boolean value => cases value <;> simp [leafText, typeAt, type]
  | char c =>
    rw [leafText]
    obtain ⟨name, _, text⟩ | text := charText_cases c <;> rw [text] <;> simp [typeAt, type]
  | integer n =>
    obtain ⟨first, tail, text, all⟩ := toList_toString_int n.toInt
    rw [leafText, text]
    exact typeAt_of_digit (all first List.mem_cons_self) _
  | _ => simp [leafText, stringText, typeAt, type]

/-! ## Pairs -/

/-- Data: the values built from pairs and data without parts. -/
inductive Datum : Value → Prop
  | atom {value : Value} (single : value.Atom) : Datum value
  | pair (id : Identity) {car cdr : Value} (left : Datum car) (right : Datum cdr) :
      Datum (pair id car cdr)

theorem typeAt_pair (known : (typeAt rest).isSome) : typeAt ('(' :: rest) = some .pair := by
  cases rest with
  | nil => rfl
  | cons c rest =>
    by_cases closing : c = ')'
    · subst closing
      simp [typeAt] at known
    · simp [typeAt, closing]

theorem toList_written_pair (id : Identity) (car cdr : Value) :
    ((pair id car cdr).written table).toList =
      '(' :: ((car.written table).toList ++ (cdr.writtenTail table).toList) := by
  simp [written_pair]

theorem toList_writtenTail_pair (id : Identity) (car cdr : Value) :
    ((pair id car cdr).writtenTail table).toList =
      ' ' :: ((car.written table).toList ++ (cdr.writtenTail table).toList) := by
  simp [writtenTail_pair]

theorem toList_writtenTail_of_ne (single : value.type ≠ .pair) (unclosed : value.type ≠ .null) :
    (value.writtenTail table).toList =
      ' ' :: '.' :: ' ' :: ((value.written table).toList ++ [')']) := by
  simp [writtenTail_of_ne single unclosed]

variable (table) in
/-- What follows the first element of a list closes it, goes on with an element, or goes on with a dot
and a last tail. -/
theorem writtenTail_cases (value : Value) :
    (value = null ∧ (value.writtenTail table).toList = [')']) ∨
    (∃ id car cdr, value = pair id car cdr ∧ (value.writtenTail table).toList =
      ' ' :: ((car.written table).toList ++ (cdr.writtenTail table).toList)) ∨
    (value.type ≠ .null ∧ value.type ≠ .pair ∧ (value.writtenTail table).toList =
      ' ' :: '.' :: ' ' :: ((value.written table).toList ++ [')'])) := by
  cases value with
  | null => exact .inl ⟨rfl, by simp⟩
  | pair id car cdr => exact .inr (.inl ⟨id, car, cdr, rfl, toList_writtenTail_pair id car cdr⟩)
  | _ =>
    refine .inr (.inr ⟨by simp [type], by simp [type], ?_⟩)
    exact toList_writtenTail_of_ne (by simp [type]) (by simp [type])

theorem ends_writtenTail (value : Value) (rest : List Char) :
    Ends ((value.writtenTail table).toList ++ rest) := by
  intro c first
  obtain ⟨_, text⟩ | ⟨_, _, _, _, text⟩ | ⟨_, _, text⟩ := value.writtenTail_cases table <;>
    rw [text] at first <;> cases first <;> rfl

theorem Datum.typeAt_written (datum : value.Datum) (rest : List Char) :
    typeAt ((value.written table).toList ++ rest) = some value.type := by
  induction datum generalizing rest with
  | atom single =>
    rw [written_of_ne_pair single.type_ne_pair]
    exact single.typeAt_leafText rest
  | pair id _ _ ih _ =>
    rw [toList_written_pair, List.cons_append, List.append_assoc]
    exact typeAt_pair (by rw [ih]; rfl)

theorem Datum.type_eq (left : a.Datum) (right : b.Datum)
    (same : (a.written t).toList ++ r = (b.written u).toList ++ s) : a.type = b.type := by
  apply Option.some.inj
  rw [← left.typeAt_written r, same, right.typeAt_written s]

/-- No datum starts with the dot of a last tail. -/
theorem Datum.written_ne_dot (datum : value.Datum) (r s : List Char) :
    (value.written table).toList ++ r ≠ '.' :: s := by
  intro same
  have known : typeAt ((value.written table).toList ++ r) = some value.type :=
    datum.typeAt_written r
  rw [same] at known
  simp [typeAt] at known

theorem Datum.atom_of_ne (datum : value.Datum) (single : value.type ≠ .pair) : value.Atom := by
  cases datum with
  | atom atom => exact atom
  | pair => exact absurd rfl single

variable (t u) in
/-- A text that starts with the value as `t` writes it, and with a datum as `u` does, is written for one
tree and goes on in one way. -/
def Reads (a : Value) : Prop :=
  ∀ (b : Value) (r s : List Char), b.Datum → Ends r → Ends s →
    (a.written t).toList ++ r = (b.written u).toList ++ s → a.tree = b.tree ∧ r = s

variable (t u) in
/-- The same of what follows the first element of a list. -/
def ReadsTail (a : Value) : Prop :=
  ∀ (b : Value) (r s : List Char), b.Datum →
    (a.writtenTail t).toList ++ r = (b.writtenTail u).toList ++ s → a.tree = b.tree ∧ r = s

theorem Atom.reads (atom : a.Atom) : Reads t u a := by
  intro b r s datum endsR endsS same
  have types := (Datum.atom atom).type_eq datum same
  have other := datum.atom_of_ne (types ▸ atom.type_ne_pair)
  rw [written_of_ne_pair atom.type_ne_pair, written_of_ne_pair other.type_ne_pair] at same
  -- Only values of one type are left to compare.
  cases atom <;> cases other <;> simp only [type, reduceCtorEq] at types
  case null.null => exact ⟨rfl, List.append_cancel_left same⟩
  case unspecified.unspecified => exact ⟨rfl, List.append_cancel_left same⟩
  case boolean.boolean x y => cases x <;> cases y <;> simp_all [leafText]
  case char.char x y =>
    obtain ⟨rfl, rests⟩ := readable_char x y r s endsR endsS same
    exact ⟨rfl, rests⟩
  case integer.integer x y =>
    obtain ⟨rfl, rests⟩ := readable_integer x y r s endsR endsS same
    exact ⟨rfl, rests⟩
  case marker.marker x y =>
    rw [leafText, leafText, String.append_assoc, String.append_assoc] at same
    obtain ⟨rfl, rests⟩ := readable_marker x y r s endsR endsS same
    exact ⟨rfl, rests⟩
  case string.string x _ y =>
    obtain ⟨rfl, rests⟩ := readable_string x y r s endsR endsS same
    exact ⟨rfl, rests⟩

theorem readsTail_null : ReadsTail t u null := by
  intro b r s _ same
  rw [writtenTail_null] at same
  obtain ⟨rfl, text⟩ | ⟨_, _, _, _, text⟩ | ⟨_, _, text⟩ := b.writtenTail_cases u <;>
    rw [text] at same <;> cases same
  exact ⟨rfl, rfl⟩

theorem Atom.readsTail (atom : a.Atom) (unclosed : a.type ≠ .null) : ReadsTail t u a := by
  intro b r s datum same
  rw [toList_writtenTail_of_ne atom.type_ne_pair unclosed] at same
  obtain ⟨rfl, text⟩ | ⟨_, _, _, rfl, text⟩ | ⟨_, _, text⟩ := b.writtenTail_cases u <;>
    rw [text] at same
  · cases same
  · cases datum with
    | atom other => exact absurd rfl other.type_ne_pair
    | pair _ left _ =>
      -- Behind the space stands a dot here, and the start of an element there.
      simp only [List.cons_append, List.append_assoc] at same
      exact absurd (List.tail_eq_of_cons_eq same).symm (left.written_ne_dot _ _)
  · have ends (rest : List Char) : Ends (')' :: rest) := by
      rintro c ⟨⟩
      rfl
    have values : (a.written t).toList ++ ')' :: r = (b.written u).toList ++ ')' :: s := by
      simpa using same
    obtain ⟨trees, rests⟩ := atom.reads b _ _ datum (ends r) (ends s) values
    exact ⟨trees, List.tail_eq_of_cons_eq rests⟩

theorem reads_pair (id : Identity) {car cdr : Value} (head : Reads t u car)
    (tail : ReadsTail t u cdr) (left : car.Datum) (right : cdr.Datum) : Reads t u (pair id car cdr) := by
  intro b r s datum endsR endsS same
  have types := (Datum.pair id left right).type_eq datum same
  cases datum with
  | atom other => exact absurd types.symm other.type_ne_pair
  | pair _ otherLeft otherRight =>
    rw [toList_written_pair, toList_written_pair, List.cons_append, List.cons_append,
      List.append_assoc, List.append_assoc] at same
    obtain ⟨cars, rests⟩ := head _ _ _ otherLeft (ends_writtenTail _ _) (ends_writtenTail _ _)
      (List.tail_eq_of_cons_eq same)
    obtain ⟨cdrs, rfl⟩ := tail _ _ _ otherRight rests
    exact ⟨by rw [tree, tree, cars, cdrs], rfl⟩

theorem readsTail_pair (id : Identity) {car cdr : Value} (head : Reads t u car)
    (tail : ReadsTail t u cdr) (left : car.Datum) : ReadsTail t u (pair id car cdr) := by
  intro b r s datum same
  rw [toList_writtenTail_pair, List.cons_append, List.append_assoc] at same
  obtain ⟨rfl, text⟩ | ⟨_, _, _, rfl, text⟩ | ⟨_, _, text⟩ := b.writtenTail_cases u <;>
    rw [text] at same
  · cases same
  · cases datum with
    | atom other => exact absurd rfl other.type_ne_pair
    | pair _ otherLeft otherRight =>
      rw [List.cons_append, List.append_assoc] at same
      obtain ⟨cars, rests⟩ := head _ _ _ otherLeft (ends_writtenTail _ _) (ends_writtenTail _ _)
        (List.tail_eq_of_cons_eq same)
      obtain ⟨cdrs, rfl⟩ := tail _ _ _ otherRight rests
      exact ⟨by rw [tree, tree, cars, cdrs], rfl⟩
  · exact absurd (List.tail_eq_of_cons_eq same) (left.written_ne_dot _ _)

/-- By induction on the datum: the car of a pair is followed by a tail, which starts with a delimiter, and
the tail by what follows the pair. -/
theorem Datum.reads (datum : a.Datum) : Reads t u a ∧ ReadsTail t u a := by
  induction datum with
  | @atom a atom =>
    refine ⟨atom.reads, ?_⟩
    by_cases closed : a.type = .null
    · cases atom with
      | null => exact readsTail_null
      | _ => cases closed
    · exact atom.readsTail closed
  | pair id left right head tail =>
    exact ⟨reads_pair id head.1 tail.2 left right, readsTail_pair id head.1 tail.2 left⟩

/-- Data of one tree are written alike. -/
theorem Datum.written_eq_of_tree_eq (left : a.Datum) (right : b.Datum) (same : a.tree = b.tree) :
    a.written t = b.written u ∧ a.writtenTail t = b.writtenTail u := by
  induction left generalizing b with
  | atom atom =>
    cases right with
    | atom other =>
      cases atom with
      | boolean value =>
        cases other <;> cases same
        cases value <;> exact ⟨rfl, rfl⟩
      | _ =>
        cases other <;> cases same
        exact ⟨rfl, rfl⟩
    | pair => cases atom <;> cases same
  | pair id _ _ head tail =>
    cases right with
    | atom other => cases other <;> cases same
    | pair _ otherLeft otherRight =>
      simp only [tree, Tree.pair.injEq] at same
      obtain ⟨cars, _⟩ := head otherLeft same.1
      obtain ⟨_, cdrs⟩ := tail otherRight same.2
      exact ⟨by rw [written_pair, written_pair, cars, cdrs],
        by rw [writtenTail_pair, writtenTail_pair, cars, cdrs]⟩

end Value

open Value

/-- Different data never have the same written form, and equal data always do. -/
theorem Store.Made.written_eq_iff_equal {values : List Value} {store : Store} {a b : Value}
    (made : Made values store) (memberA : a ∈ values) (memberB : b ∈ values) (left : a.Datum)
    (right : b.Datum) (t u : SymbolTable) : a.written t = b.written u ↔ a.equal b = true := by
  rw [(made.sharing.compatible memberA memberB).equal_iff]
  constructor
  · intro same
    exact (left.reads.1 b [] [] right nofun nofun (by rw [same])).1
  · intro same
    exact (left.written_eq_of_tree_eq right same).1

/-- A closing parenthesis and a string of quotes, dots and parentheses: as a pair they are not written
like the list of both, and two such pairs of different allocations are written alike. -/
theorem Store.Made.written_eq_iff_equal_dotted :
    let text : Value := .string 0 "\" . #\\)"
    let dotted : Value := .pair 1 (.char ')') text
    let last : Value := .pair 2 text .null
    let listed : Value := .pair 3 (.char ')') last
    let copy : Value := .pair 4 (.char ')') text
    dotted.written (.bare 0) ≠ listed.written (.bare 0) ∧
      dotted.written (.bare 0) = copy.written (.create 1) := by
  intro text dotted last listed copy
  have texts : Made [.null, .char ')', text] { nextIdentity := 1 } :=
    .plain (.plain (.call (.start {}) (.string _)) rfl) rfl
  have first : Made [dotted, .null, .char ')', text] { nextIdentity := 2 } :=
    .call texts (.pair (by simp) (by simp))
  have second : Made [last, dotted, .null, .char ')', text] { nextIdentity := 3 } :=
    .call first (.pair (by simp) (by simp))
  have third : Made [listed, last, dotted, .null, .char ')', text] { nextIdentity := 4 } :=
    .call second (.pair (by simp) (by simp))
  have made : Made [copy, listed, last, dotted, .null, .char ')', text] { nextIdentity := 5 } :=
    .call third (.pair (by simp) (by simp))
  have datumText : text.Datum := .atom (.string _ _)
  have datum (id : Identity) : (Value.pair id (.char ')') text).Datum :=
    .pair id (.atom (.char _)) datumText
  have datumListed : listed.Datum := .pair _ (.atom (.char _)) (.pair _ datumText (.atom .null))
  constructor
  · have iff := made.written_eq_iff_equal (a := dotted) (b := listed) (by simp) (by simp) (datum 1)
      datumListed (.bare 0) (.bare 0)
    rw [Ne, iff]
    decide
  · exact (made.written_eq_iff_equal (a := dotted) (b := copy) (by simp) (by simp) (datum 1) (datum 4)
      (.bare 0) (.create 1)).mpr rfl

end SchemeBase
