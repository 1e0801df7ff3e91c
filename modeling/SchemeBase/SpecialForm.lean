/-! # Special forms

The forms an evaluator treats by itself instead of applying a procedure. A library binds each
keyword to the marker of its form, so an evaluator recognises the form by the marker and not by
the spelling.
-/

namespace SchemeBase

/-- The marker of a special form. -/
inductive SpecialForm where
  | quote
  | quasiquote
  | unquote
  | unquoteSplicing
  | ifForm
  | define
  | setForm
  | lambda
  | begin
  | letForm
  | letStar
  | letrec
  | andForm
  | orForm
  | cond
  | caseForm
  | doForm
  | delay
  | defmacro
deriving DecidableEq, Repr

namespace SpecialForm

/-- Every form, in keyword order. -/
def all : List SpecialForm :=
  [quote, quasiquote, unquote, unquoteSplicing, ifForm, define, setForm, lambda, begin, letForm,
    letStar, letrec, andForm, orForm, cond, caseForm, doForm, delay, defmacro]

/-- The keyword of a form. -/
def keyword : SpecialForm → String
  | quote => "quote"
  | quasiquote => "quasiquote"
  | unquote => "unquote"
  | unquoteSplicing => "unquote-splicing"
  | ifForm => "if"
  | define => "define"
  | setForm => "set!"
  | lambda => "lambda"
  | begin => "begin"
  | letForm => "let"
  | letStar => "let*"
  | letrec => "letrec"
  | andForm => "and"
  | orForm => "or"
  | cond => "cond"
  | caseForm => "case"
  | doForm => "do"
  | delay => "delay"
  | defmacro => "defmacro"

/-- The form with a given keyword. -/
def ofKeyword? (keyword : String) : Option SpecialForm :=
  all.find? (·.keyword == keyword)

/-- The name of a form in diagnostics. -/
def diagnostic : SpecialForm → String
  | quote => "Quote"
  | quasiquote => "Quasiquote"
  | unquote => "Unquote"
  | unquoteSplicing => "UnquoteSplicing"
  | ifForm => "If"
  | define => "Define"
  | setForm => "Set"
  | lambda => "Lambda"
  | begin => "Begin"
  | letForm => "Let"
  | letStar => "LetStar"
  | letrec => "Letrec"
  | andForm => "And"
  | orForm => "Or"
  | cond => "Cond"
  | caseForm => "Case"
  | doForm => "Do"
  | delay => "Delay"
  | defmacro => "Defmacro"

/-- Every form is listed. -/
theorem mem_all (form : SpecialForm) : form ∈ all := by
  cases form <;> decide

end SpecialForm

end SchemeBase
