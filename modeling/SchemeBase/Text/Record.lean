/-! # Records in diagnostics

How a diagnostic lays out a record, a wrapped value and a list. A record may hide part of its
fields; two dots stand for them.
-/

namespace SchemeBase.Text

/-- A record with its name, its shown fields, and whether it hides others. -/
def record (name : String) (fields : List (String × String)) (hidesMore : Bool) : String :=
  let shown := fields.map fun (label, value) => label ++ ": " ++ value
  let parts := if hidesMore then shown ++ [".."] else shown
  name ++ " \x7b " ++ String.intercalate ", " parts ++ " \x7d"

/-- A value under the name of what wraps it. -/
def wrapped (name value : String) : String :=
  name ++ "(" ++ value ++ ")"

/-- Values between brackets. -/
def listed (values : List String) : String :=
  "[" ++ String.intercalate ", " values ++ "]"

/-- A value that may be missing. -/
def optional : Option String → String
  | some value => wrapped "Some" value
  | none => "None"

end SchemeBase.Text
