import Mathlib.Data.List.Pairwise
import SchemeBase.Apply

/-! # Comparisons of many arguments

Twelve primitives compare two or more arguments: characters in ten ways, booleans, and symbols. They
look at neighbours, or at the first argument and each other one, and yet they answer whether the
relation holds between every two arguments in their order, because each of the relations is transitive.
So to go through the arguments from behind is to turn the relation around, and the order does not
matter to an equality. All arguments are checked for their type before any two are compared.
-/

namespace SchemeBase

open Value

variable {σ α : Type} {executor : Executor σ} {args : List Value}

/-! ## Every two elements -/

theorem adjacent_iff_isChain (relation : α → α → Bool) (items : List α) :
    adjacent relation items = true ↔ items.IsChain fun a b => relation a b = true := by
  fun_induction adjacent relation items with
  | case1 a b rest ih => rw [Bool.and_eq_true, ih, List.isChain_cons_cons]
  | case2 items other =>
    match items with
    | [] => simp
    | [a] => simp
    | a :: b :: rest => exact absurd rfl (other a b rest)

/-- A transitive relation that holds of all neighbours holds of every two elements. -/
theorem adjacent_iff_pairwise (relation : α → α → Bool)
    (trans : ∀ {a b c}, relation a b = true → relation b c = true → relation a c = true)
    (items : List α) :
    adjacent relation items = true ↔ items.Pairwise fun a b => relation a b = true := by
  have : Trans (fun a b => relation a b = true) (fun a b => relation a b = true)
      (fun a b => relation a b = true) := ⟨trans⟩
  rw [adjacent_iff_isChain, List.isChain_iff_pairwise]

theorem BooleanPrimitive.allSame_iff_pairwise [BEq α] [LawfulBEq α] (items : List α) :
    allSame items = true ↔ items.Pairwise (· = ·) := by
  cases items with
  | nil => simp [allSame]
  | cons first rest =>
    rw [allSame, List.all_eq_true, List.pairwise_cons]
    constructor
    · intro same
      have equal (item : α) (member : item ∈ rest) : item = first := beq_iff_eq.mp (same item member)
      exact ⟨fun item member => (equal item member).symm, List.pairwise_of_forall_mem_list
        fun a left b right => (equal a left).trans (equal b right).symm⟩
    · rintro ⟨same, _⟩ item member
      exact beq_iff_eq.mpr (same item member).symm

theorem Comparison.holds_trans (relation : Comparison) {a b c : Char}
    (left : relation.holds a b = true) (right : relation.holds b c = true) :
    relation.holds a c = true := by
  cases relation <;> simp only [holds, beq_iff_eq, decide_eq_true_eq] at left right ⊢
  · exact left.trans right
  · exact Char.lt_trans left right
  · exact Char.lt_trans right left
  · exact Char.le_trans left right
  · exact Char.le_trans right left

/-- The relation of a comparison on an ordered type. Characters have the order of their code points. -/
def Comparison.Orders [LT α] [LE α] : Comparison → α → α → Prop
  | equal, a, b => a = b
  | less, a, b => a < b
  | greater, a, b => b < a
  | lessOrEqual, a, b => a ≤ b
  | greaterOrEqual, a, b => b ≤ a

instance [LT α] [LE α] [DecidableEq α] [DecidableLT α] [DecidableLE α] (relation : Comparison)
    (a b : α) : Decidable (relation.Orders a b) :=
  match relation with
  | .equal => inferInstanceAs (Decidable (a = b))
  | .less => inferInstanceAs (Decidable (a < b))
  | .greater => inferInstanceAs (Decidable (b < a))
  | .lessOrEqual => inferInstanceAs (Decidable (a ≤ b))
  | .greaterOrEqual => inferInstanceAs (Decidable (b ≤ a))

theorem Comparison.holds_iff_orders (relation : Comparison) {a b : Char} :
    relation.holds a b = true ↔ relation.Orders a b := by
  cases relation with
  | equal => exact beq_iff_eq
  | _ => exact decide_eq_true_iff

/-- The relation the other way round. -/
def Comparison.converse : Comparison → Comparison
  | equal => equal
  | less => greater
  | greater => less
  | lessOrEqual => greaterOrEqual
  | greaterOrEqual => lessOrEqual

theorem Comparison.orders_converse_iff [LT α] [LE α] (relation : Comparison) {a b : α} :
    relation.converse.Orders a b ↔ relation.Orders b a := by
  cases relation with
  | equal => exact eq_comm
  | _ => exact Iff.rfl

/-! ## The comparisons -/

/-- A primitive that compares two or more arguments. -/
inductive Comparer where
  | chars (foldCase : Bool) (relation : Comparison)
  | booleans
  | symbols

namespace Comparer

/-- The primitive that makes the comparison. -/
def builtin : Comparer → Builtin
  | chars foldCase relation => .character (.compare foldCase relation)
  | booleans => .boolean .sameBoolean
  | symbols => .symbol .sameSymbol

/-- The type of all arguments. -/
def expected : Comparer → ValueType
  | chars .. => .char
  | booleans => .boolean
  | symbols => .symbol

/-- What is compared. Where case is ignored, characters are compared by their lower cases. -/
inductive Holds : Comparer → Value → Value → Prop
  | chars {relation : Comparison} {c d : Char} (ordered : relation.Orders c d) :
      Holds (chars false relation) (.char c) (.char d)
  | charsFolded {relation : Comparison} {c d : Char}
      (ordered : relation.Orders (Unicode.downcase c) (Unicode.downcase d)) :
      Holds (chars true relation) (.char c) (.char d)
  | booleans (value : Bool) : Holds booleans (.boolean value) (.boolean value)
  | symbols (value : Symbol) : Holds symbols (.symbol value) (.symbol value)

/-- The comparison the other way round. -/
def converse : Comparer → Comparer
  | chars foldCase relation => chars foldCase relation.converse
  | booleans => booleans
  | symbols => symbols

/-- The comparisons for being the same. -/
inductive IsEquality : Comparer → Prop
  | chars (foldCase : Bool) : IsEquality (chars foldCase .equal)
  | booleans : IsEquality booleans
  | symbols : IsEquality symbols

/-- What an argument of the expected type holds. -/
abbrev Contents : Comparer → Type
  | chars .. => Char
  | booleans => Bool
  | symbols => Symbol

def read? : (comparer : Comparer) → Value → Option comparer.Contents
  | chars .. => asChar?
  | booleans => asBoolean?
  | symbols => asSymbol?

def wrap : (comparer : Comparer) → comparer.Contents → Value
  | chars .. => .char
  | booleans => .boolean
  | symbols => .symbol

/-- The answer for contents that have passed the checks. -/
def verdict : (comparer : Comparer) → List comparer.Contents → Bool
  | chars foldCase relation => fun found =>
    adjacent relation.holds (found.map (CharacterPrimitive.folded foldCase))
  | booleans => BooleanPrimitive.allSame
  | symbols => BooleanPrimitive.allSame

variable {comparer : Comparer} {arg : Value}

/-- All comparisons check their arguments and then give their verdict. -/
theorem step?_eq (comparer : Comparer) (table : TableId) (many : 2 ≤ args.length) :
    comparer.builtin.step? table args = some (.ofResult do
      let found ← requireEach
        (requireArg comparer.builtin.name comparer.expected comparer.read?) 1 args
      return .boolean (comparer.verdict found)) := by
  match args, many with
  | x :: y :: rest, _ => cases comparer <;> rfl

theorem read?_eq_some_iff {contents : comparer.Contents} :
    comparer.read? arg = some contents ↔ arg = comparer.wrap contents := by
  cases comparer <;> cases arg <;> simp [read?, wrap, asChar?, asBoolean?, asSymbol?]

theorem read?_eq_none_iff : comparer.read? arg = none ↔ arg.type ≠ comparer.expected := by
  cases comparer <;> cases arg <;> simp [read?, expected, type, asChar?, asBoolean?, asSymbol?]

theorem holds_wrap_iff_chars {foldCase : Bool} {relation : Comparison} {c d : Char} :
    (chars foldCase relation).Holds (.char c) (.char d) ↔
      relation.Orders (CharacterPrimitive.folded foldCase c) (CharacterPrimitive.folded foldCase d) := by
  cases foldCase with
  | false => exact ⟨fun | .chars ordered => ordered, .chars⟩
  | true => exact ⟨fun | .charsFolded ordered => ordered, .charsFolded⟩

theorem eq_map_wrap {found : List comparer.Contents}
    (read : args.map comparer.read? = found.map some) : args = found.map comparer.wrap := by
  induction args generalizing found with
  | nil =>
    cases found with
    | nil => rfl
    | cons => cases read
  | cons arg args ih =>
    cases found with
    | nil => cases read
    | cons contents found =>
      obtain ⟨first, rest⟩ := List.cons.inj read
      rw [List.map_cons, ← read?_eq_some_iff.mp first, ← ih rest]

variable (comparer) in
/-- Either all arguments have the expected type or one of them is the first that has not. -/
theorem typed_or_first_mistyped (args : List Value) :
    (∀ arg ∈ args, arg.type = comparer.expected) ∨
      ∃ before arg after, args = before ++ arg :: after ∧
        (∀ earlier ∈ before, earlier.type = comparer.expected) ∧ arg.type ≠ comparer.expected := by
  have typed {arg : Value} (read : comparer.read? arg ≠ none) : arg.type = comparer.expected :=
    Classical.not_not.mp fun other => read (read?_eq_none_iff.mpr other)
  obtain ⟨found, read⟩ | ⟨before, arg, after, split, passed, without⟩ :=
    contents_or_first_without comparer.read? args
  · exact .inl fun arg member => typed (read_ne_none read arg member)
  · refine .inr ⟨before, arg, after, split, fun earlier member => ?_, read?_eq_none_iff.mp without⟩
    exact typed (Option.isSome_iff_ne_none.mp (passed earlier member))

/-- The verdict is about every two contents, in their order. -/
theorem verdict_iff (found : List comparer.Contents) :
    comparer.verdict found = true ↔ (found.map comparer.wrap).Pairwise comparer.Holds := by
  rw [List.pairwise_map]
  cases comparer with
  | chars foldCase relation =>
    have pairs := adjacent_iff_pairwise relation.holds relation.holds_trans
      (found.map (CharacterPrimitive.folded foldCase))
    refine pairs.trans (List.pairwise_map.trans ?_)
    exact List.Pairwise.iff fun _ _ => relation.holds_iff_orders.trans holds_wrap_iff_chars.symm
  | booleans =>
    refine (BooleanPrimitive.allSame_iff_pairwise found).trans (List.Pairwise.iff fun _ _ => ?_)
    exact ⟨fun | rfl => .booleans _, fun | .booleans _ => rfl⟩
  | symbols =>
    refine (BooleanPrimitive.allSame_iff_pairwise found).trans (List.Pairwise.iff fun _ _ => ?_)
    exact ⟨fun | rfl => .symbols _, fun | .symbols _ => rfl⟩

/-! ### Turned around -/

theorem expected_converse (comparer : Comparer) : comparer.converse.expected = comparer.expected := by
  cases comparer <;> rfl

theorem Holds.converse {a b : Value} (holds : comparer.Holds a b) : comparer.converse.Holds b a := by
  cases holds with
  | chars ordered => exact .chars ((Comparison.orders_converse_iff _).mpr ordered)
  | charsFolded ordered => exact .charsFolded ((Comparison.orders_converse_iff _).mpr ordered)
  | booleans value => exact .booleans value
  | symbols value => exact .symbols value

theorem converse_converse (comparer : Comparer) : comparer.converse.converse = comparer := by
  cases comparer with
  | chars _ relation => cases relation <;> rfl
  | _ => rfl

theorem holds_converse_iff {a b : Value} : comparer.converse.Holds b a ↔ comparer.Holds a b :=
  ⟨fun holds => comparer.converse_converse ▸ holds.converse, Holds.converse⟩

theorem IsEquality.converse_eq (equality : comparer.IsEquality) : comparer.converse = comparer := by
  cases equality <;> rfl

/-! ### Applications -/

/-- The procedure that makes the comparison. -/
abbrev procedure (comparer : Comparer) : Value := .primitive (.builtin comparer.builtin)

variable (executor) (machine : Machine σ)

/-- The first argument of another type is the error, and nothing happens. -/
theorem apply_mistyped {before after : List Value} (many : 2 ≤ (before ++ arg :: after).length)
    (typed : ∀ earlier ∈ before, earlier.type = comparer.expected) (other : arg.type ≠ comparer.expected) :
    executor.apply comparer.procedure (before ++ arg :: after) machine =
      (.error (.typeMismatch comparer.builtin.name (before.length + 1) comparer.expected arg.type),
        machine) := by
  have failed : requireEach (requireArg comparer.builtin.name comparer.expected comparer.read?) 1
      (before ++ arg :: after) = .error
        (.typeMismatch comparer.builtin.name (before.length + 1) comparer.expected arg.type) := by
    refine requireEach_of_error (fun earlier member position => ?_) ?_
    · have found : comparer.read? earlier ≠ none :=
        fun none => read?_eq_none_iff.mp none (typed earlier member)
      obtain ⟨contents, read⟩ := Option.ne_none_iff_exists'.mp found
      exact ⟨contents, requireArg_eq_ok_iff.mpr read⟩
    · rw [requireArg, read?_eq_none_iff.mpr other, Nat.add_comm]
  rw [Executor.apply_builtin (comparer.step?_eq executor.table many), failed]
  rfl

/-- Arguments of the expected type are compared, every two of them in their order. -/
theorem apply_typed (many : 2 ≤ args.length) (typed : ∀ arg ∈ args, arg.type = comparer.expected) :
    ∃ answer, executor.apply comparer.procedure args machine = (.ok (.boolean answer), machine) ∧
      (answer = true ↔ args.Pairwise comparer.Holds) := by
  obtain ⟨found, read⟩ | ⟨before, arg, after, rfl, _, without⟩ :=
    contents_or_first_without comparer.read? args
  · have checked : requireEach (requireArg comparer.builtin.name comparer.expected comparer.read?) 1
        args = .ok found := (requireEach_eq_ok_iff fun _ _ _ => requireArg_eq_ok_iff).mpr read
    refine ⟨comparer.verdict found, ?_, ?_⟩
    · rw [Executor.apply_builtin (comparer.step?_eq executor.table many), checked]
      rfl
    · rw [eq_map_wrap read]
      exact verdict_iff found
  · exact absurd (typed arg (by simp)) (read?_eq_none_iff.mp without)

/-- Comparisons that hold of the same pairs have the same outcome. -/
theorem apply_eq_of_pairwise_iff {other : Comparer} {others : List Value} (many : 2 ≤ args.length)
    (typed : ∀ arg ∈ args, arg.type = comparer.expected) (otherMany : 2 ≤ others.length)
    (otherTyped : ∀ arg ∈ others, arg.type = other.expected)
    (same : args.Pairwise comparer.Holds ↔ others.Pairwise other.Holds) :
    executor.apply comparer.procedure args machine = executor.apply other.procedure others machine := by
  obtain ⟨answer, outcome, holds⟩ := apply_typed executor machine many typed
  obtain ⟨otherAnswer, otherOutcome, otherHolds⟩ := apply_typed executor machine otherMany otherTyped
  have answers : answer = otherAnswer := by
    rw [Bool.eq_iff_iff, holds, same, otherHolds]
  rw [outcome, otherOutcome, answers]

end Comparer

namespace Executor

/-- A comparison of two or more arguments fails just when one of them has another type, and then over
the first such argument, also where earlier ones decide the answer. Otherwise it answers whether the
relation holds between every two arguments in their order. So it answers as the converse does for the
arguments in reverse, and the order does not matter to an equality. -/
theorem apply_comparer (executor : Executor σ) (comparer : Comparer) (args : List Value)
    (many : 2 ≤ args.length) (machine : Machine σ) :
    let outcome := executor.apply comparer.procedure args machine
    ((∃ cause, outcome.1 = .error cause) ↔ ∃ arg ∈ args, arg.type ≠ comparer.expected) ∧
    (∀ before arg after, args = before ++ arg :: after →
      (∀ earlier ∈ before, earlier.type = comparer.expected) → arg.type ≠ comparer.expected →
      outcome = (.error (.typeMismatch comparer.builtin.name (before.length + 1) comparer.expected
        arg.type), machine)) ∧
    ((∀ arg ∈ args, arg.type = comparer.expected) →
      (∃ answer, outcome = (.ok (.boolean answer), machine) ∧
        (answer = true ↔ args.Pairwise comparer.Holds)) ∧
      outcome = executor.apply comparer.converse.procedure args.reverse machine ∧
      (comparer.IsEquality → ∀ others, args.Perm others →
        outcome = executor.apply comparer.procedure others machine)) := by
  intro outcome
  refine ⟨?_, ?_, fun typed => ⟨?_, ?_, ?_⟩⟩
  · obtain typed | ⟨before, arg, after, rfl, typed, other⟩ := comparer.typed_or_first_mistyped args
    · obtain ⟨answer, found, _⟩ := Comparer.apply_typed executor machine many typed
      refine ⟨fun ⟨cause, failed⟩ => ?_, fun ⟨arg, member, other⟩ => absurd (typed arg member) other⟩
      cases (congrArg Prod.fst found).symm.trans failed
    · have failed := Comparer.apply_mistyped executor machine many typed other
      exact iff_of_true ⟨_, congrArg Prod.fst failed⟩ ⟨arg, by simp, other⟩
  · rintro before arg after rfl typed other
    exact Comparer.apply_mistyped executor machine many typed other
  · exact Comparer.apply_typed executor machine many typed
  · refine Comparer.apply_eq_of_pairwise_iff executor machine many typed (by simpa using many) ?_ ?_
    · intro arg member
      rw [comparer.expected_converse, typed arg (List.mem_reverse.mp member)]
    · rw [List.pairwise_reverse]
      exact List.Pairwise.iff fun _ _ => Comparer.holds_converse_iff.symm
  · intro equality others perm
    refine Comparer.apply_eq_of_pairwise_iff executor machine many typed (perm.length_eq ▸ many) ?_ ?_
    · exact fun arg member => typed arg (perm.mem_iff.mpr member)
    · refine perm.pairwise_iff ?_
      intro a b holds
      exact equality.converse_eq ▸ holds.converse

/-- The third of three arguments is no character, though the first two already decide the answer. Three
letters in falling order of their lower cases are in rising order from behind. -/
theorem apply_comparer_undecided :
    let executor : Executor Unit := .withoutEvaluator 0 fun _ _ => return .unspecified
    let machine : Machine Unit := ⟨{}, ()⟩
    let less : Comparer := .chars true .less
    let greater : Comparer := .chars true .greater
    let rising : List Value := [.char 'a', .char 'B', .char 'c']
    executor.apply less.procedure [.char 'b', .char 'A', .integer 1] machine =
        (.error (.typeMismatch "char-ci<?" 3 .char .integer), machine) ∧
      executor.apply greater.procedure rising.reverse machine = (.ok (.boolean true), machine) := by
  intro executor machine less greater rising
  constructor
  · exact (executor.apply_comparer less _ (by decide) machine).2.1 [.char 'b', .char 'A'] (.integer 1) []
      rfl (by simp [less, Comparer.expected, Value.type]) (by decide)
  · have typed : ∀ arg ∈ rising, arg.type = less.expected := by
      simp [rising, less, Comparer.expected, Value.type]
    obtain ⟨⟨answer, outcome, holds⟩, turned, _⟩ :=
      (executor.apply_comparer less rising (by decide) machine).2.2 typed
    have pairs : rising.Pairwise less.Holds := by
      have first : less.Holds (.char 'a') (.char 'B') := .charsFolded (by decide +kernel)
      have second : less.Holds (.char 'B') (.char 'c') := .charsFolded (by decide +kernel)
      have both : less.Holds (.char 'a') (.char 'c') := .charsFolded (by decide +kernel)
      simp [rising, first, second, both]
    rw [holds.mpr pairs] at outcome
    exact turned.symm.trans outcome

end Executor

end SchemeBase
