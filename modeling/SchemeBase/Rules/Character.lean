import SchemeBase.Rules.Step

/-! # Rules of the character primitives

A comparison holds of its arguments when it holds of each two neighbours; all arguments are checked
first. Forms that ignore case compare the lower cases. An integer becomes a character only if it is
a Unicode scalar value.
-/

namespace SchemeBase

/-- Whether a relation holds between each element and the next one. -/
def adjacent {α : Type} (relation : α → α → Bool) : List α → Bool
  | a :: b :: rest => relation a b && adjacent relation (b :: rest)
  | _ => true

/-- The character with a given code point, unless it is a surrogate or out of range. -/
def charOfCode? (code : Int64) : Option Char :=
  match code.toInt with
  | .ofNat n => if n.isValidChar then some (Char.ofNat n) else none
  | .negSucc _ => none

namespace CharacterPrimitive

/-- A character as a comparison sees it. -/
def folded (foldCase : Bool) (c : Char) : Char :=
  if foldCase then Unicode.downcase c else c

/-- A primitive of one character. -/
def onChar (primitive : CharacterPrimitive) (f : Char → Value) (arg : Value) : Step :=
  .ofResult ((requireArg primitive.name .char Value.asChar? 1 arg).map f)

/-- What a character primitive does; a wrong number of arguments has no rule. -/
def step? : CharacterPrimitive → List Value → Option Step
  | isChar, [x] => some (.answer (.boolean x.asChar?.isSome))
  | compare foldCase relation, x :: y :: rest =>
    some <| .ofResult do
      let chars ← requireEach
        (requireArg (compare foldCase relation).name .char Value.asChar?) 1 (x :: y :: rest)
      return .boolean (adjacent relation.holds (chars.map (folded foldCase)))
  | classify kind, [x] => some (onChar (classify kind) (fun c => .boolean (kind.contains c)) x)
  | toInteger, [x] => some (onChar toInteger (fun c => .integer (Int64.ofNat c.toNat)) x)
  | ofInteger, [x] =>
    some <| .ofResult do
      let code ← requireArg ofInteger.name .integer Value.asInteger? 1 x
      match charOfCode? code with
      | some c => return .char c
      | none => throw (.invalidCharCode code)
  | upcase, [x] => some (onChar upcase (fun c => .char (Unicode.upcase c)) x)
  | downcase, [x] => some (onChar downcase (fun c => .char (Unicode.downcase c)) x)
  | _, _ => none

/-- There is a rule for just the argument counts that the arity accepts. -/
theorem isSome_step? (primitive : CharacterPrimitive) (args : List Value) :
    (primitive.step? args).isSome = primitive.arity.accepts args.length := by
  cases primitive <;> rcases args with _ | ⟨x, _ | ⟨y, _ | ⟨z, rest⟩⟩⟩ <;>
    simp [step?, arity, Arity.accepts, Arity.exactly, Arity.atLeast]

end CharacterPrimitive

end SchemeBase
