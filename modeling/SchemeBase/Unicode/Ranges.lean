/-! # Code point tables

A property of characters is a list of closed ranges of code points, and a case mapping is a list
of runs that move by one distance. The tables are plain data, so a question about one character
reduces to comparisons of numbers.
-/

namespace SchemeBase.Unicode

/-- A set of code points, as closed ranges in ascending order. -/
structure CodeRanges where
  ranges : List (Nat × Nat)

/-- A character is in the set when one of the ranges holds its code point. -/
def CodeRanges.contains (set : CodeRanges) (c : Char) : Bool :=
  set.ranges.any fun (first, last) => first ≤ c.toNat && c.toNat ≤ last

/-- The code points from `first` to `last` in steps of `step`, the first of them mapped to
`target` and each other one moved by the same distance. -/
structure CaseRun where
  first : Nat
  last : Nat
  step : Nat
  target : Nat

namespace CaseRun

/-- Whether a code point is one of those the run maps. -/
def covers (run : CaseRun) (code : Nat) : Bool :=
  run.first ≤ code && code ≤ run.last && (code - run.first) % run.step == 0

/-- The image of a character under the first run that covers it; without one, the character. -/
def image (runs : List CaseRun) (c : Char) : Char :=
  match runs.find? (·.covers c.toNat) with
  | some run => Char.ofNat (run.target + (c.toNat - run.first))
  | none => c

end CaseRun

end SchemeBase.Unicode
