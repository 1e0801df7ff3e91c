import SchemeBase.Text.Quoted
import SchemeBase.Value.Basic

/-! # Diagnostic form

The form of a value that shows its constructors, for a reader who debugs. It needs no symbol
table: symbols are shown by their parts. The frame of a lambda is left out, since it usually binds
the lambda itself.
-/

namespace SchemeBase

/-- A primitive by its name and arity. -/
def Primitive.diagnostic (primitive : Primitive) : String :=
  Text.record "Primitive"
    [("name", Text.quoted primitive.name), ("arity", primitive.arity.diagnostic)] true

namespace Value

mutual

/-- The diagnostic form of a value. -/
def diagnostic : Value → String
  | null => "Nil"
  | unspecified => "Unspecified"
  | boolean value => Text.wrapped "Bool" (toString value)
  | char value => Text.wrapped "Char" (Text.quotedChar value)
  | integer value => Text.wrapped "Int" (toString value.toInt)
  | symbol value => Text.wrapped "Symbol" value.diagnostic
  | marker form => Text.wrapped "Syntax" form.diagnostic
  | primitive p => Text.wrapped "Primitive" p.diagnostic
  | string _ text => Text.wrapped "Str" (Text.quoted text)
  | pair _ car cdr =>
    Text.wrapped "Pair"
      (Text.record "Pair" [("car", car.diagnostic), ("cdr", cdr.diagnostic)] false)
  | lambda _ ⟨params, rest, body, _, name⟩ =>
    Text.wrapped "Lambda"
      (Text.record "Lambda"
        [("params", Text.listed (params.map Symbol.diagnostic)),
          ("rest", Text.optional (rest.map Symbol.diagnostic)),
          ("name", Text.optional (name.map Symbol.diagnostic)), ("body", body.diagnostic)]
        true)
  | condition _ message irritants =>
    Text.wrapped "Condition"
      (Text.record "Condition"
        [("message", Text.quoted message), ("irritants", Text.listed (diagnostics irritants))]
        false)

/-- The diagnostic forms of several values. -/
def diagnostics : List Value → List String
  | [] => []
  | value :: values => value.diagnostic :: diagnostics values

end

end Value

end SchemeBase
