import SchemeBase.Store.Basic

/-! # Steps of primitives

What a primitive does once its arguments are known. Most primitives finish by themselves, possibly
failing or changing the store. Three of them ask for applications of a procedure they were given:
one application, or one for each row of a table of arguments.
-/

namespace SchemeBase

/-- What is left to do for a primitive applied to arguments. -/
inductive Step where
  /-- Nothing but a step in the store. -/
  | finish (action : StoreM EvalError Value)
  /-- The answer is that of one application. -/
  | call (procedure : Value) (args : List Value)
  /-- The answer is the list of the answers for all rows. -/
  | mapRows (procedure : Value) (rows : List (List Value))
  /-- The procedure is applied to each row, and the answers are dropped. -/
  | visitRows (procedure : Value) (rows : List (List Value))

namespace Step

/-- A step that answers at once. -/
def answer (value : Value) : Step :=
  .finish (pure value)

/-- A step that fails at once. -/
def fail (error : EvalError) : Step :=
  .finish (throw error)

/-- A step that answers a checked result or fails. -/
def ofResult : Except EvalError Value → Step
  | .ok value => answer value
  | .error error => fail error

/-- The step that the checks allow, or their failure. -/
def ofChecked : Except EvalError Step → Step
  | .ok step => step
  | .error error => fail error

end Step

/-- The contents that `read` finds in the argument at a position, or the error that it is of
another type. -/
def requireArg {α : Type} (name : String) (expected : ValueType) (read : Value → Option α)
    (position : Nat) (arg : Value) : Except EvalError α :=
  match read arg with
  | some contents => .ok contents
  | none => .error (.typeMismatch name position expected arg.type)

/-- An argument that has to be a procedure. -/
def requireProcedure (name : String) (position : Nat) (arg : Value) : Except EvalError Value :=
  requireArg name .procedure (fun arg => if arg.isProcedure then some arg else none) position arg

/-- The elements of an argument that has to be a proper list. -/
def requireList (name : String) (position : Nat) (arg : Value) : Except EvalError (List Value) :=
  match arg.toList? with
  | some items => .ok items
  | none => .error (.improperList name position)

/-- Checks arguments from left to right, the first of them standing at `position`. The first
failure is the outcome. -/
def requireEach {α : Type} (check : Nat → Value → Except EvalError α) (position : Nat)
    (args : List Value) : Except EvalError (List α) :=
  (args.zipIdx position).mapM fun (arg, position) => check position arg

/-- Checks that follow one another succeed when each of them does. -/
theorem bind_eq_ok_iff {ε α β : Type} {first : Except ε α} {next : α → Except ε β} {answer : β} :
    (first >>= next) = .ok answer ↔ ∃ contents, first = .ok contents ∧ next contents = .ok answer := by
  cases first with
  | error cause => exact ⟨nofun, nofun⟩
  | ok contents =>
    constructor
    · intro success
      exact ⟨contents, rfl, success⟩
    · rintro ⟨_, same, success⟩
      cases same
      exact success

theorem map_eq_ok_iff {ε α β : Type} {checked : Except ε α} {f : α → β} {answer : β} :
    checked.map f = .ok answer ↔ ∃ contents, checked = .ok contents ∧ f contents = answer := by
  cases checked <;> simp [Except.map]

theorem requireArg_eq_ok_iff {α : Type} {name : String} {expected : ValueType}
    {read : Value → Option α} {position : Nat} {arg : Value} {contents : α} :
    requireArg name expected read position arg = .ok contents ↔ read arg = some contents := by
  unfold requireArg
  cases read arg <;> simp

theorem requireProcedure_eq_ok_iff {name : String} {position : Nat} {arg procedure : Value} :
    requireProcedure name position arg = .ok procedure ↔ arg.isProcedure = true ∧ arg = procedure := by
  unfold requireProcedure requireArg
  by_cases callable : arg.isProcedure = true <;> simp [callable]

theorem requireList_eq_ok_iff {name : String} {position : Nat} {arg : Value} {items : List Value} :
    requireList name position arg = .ok items ↔ arg.toList? = some items := by
  unfold requireList
  cases arg.toList? <;> simp

@[simp] theorem requireEach_nil {α : Type} (check : Nat → Value → Except EvalError α)
    (position : Nat) : requireEach check position [] = .ok [] := by
  simp [requireEach, pure, Except.pure]

@[simp] theorem requireEach_cons {α : Type} (check : Nat → Value → Except EvalError α)
    (position : Nat) (arg : Value) (args : List Value) :
    requireEach check position (arg :: args) = do
      let contents ← check position arg
      let rest ← requireEach check (position + 1) args
      return contents :: rest := by
  simp [requireEach]

/-- Checks that read the contents of their argument succeed together when each argument has some. -/
theorem requireEach_eq_ok_iff {α : Type} {check : Nat → Value → Except EvalError α}
    {read : Value → Option α}
    (reads : ∀ position arg contents, check position arg = .ok contents ↔ read arg = some contents)
    {position : Nat} {args : List Value} {found : List α} :
    requireEach check position args = .ok found ↔ args.map read = found.map some := by
  induction args generalizing position found with
  | nil => cases found <;> simp
  | cons arg args ih =>
    simp only [requireEach_cons, bind_eq_ok_iff, reads, ih]
    constructor
    · rintro ⟨contents, first, others, rest, success⟩
      cases success
      rw [List.map_cons, first, rest, List.map_cons]
    · intro same
      cases found with
      | nil => cases same
      | cons contents others =>
        obtain ⟨first, rest⟩ := List.cons.inj same
        exact ⟨contents, first, others, rest, rfl⟩

/-- Behind arguments that pass, the first that fails is the outcome. -/
theorem requireEach_of_error {α : Type} {check : Nat → Value → Except EvalError α}
    {before after : List Value} {arg : Value} {cause : EvalError} {position : Nat}
    (passes : ∀ earlier ∈ before, ∀ position, ∃ contents, check position earlier = .ok contents)
    (fails : check (position + before.length) arg = .error cause) :
    requireEach check position (before ++ arg :: after) = .error cause := by
  induction before generalizing position with
  | nil =>
    rw [List.nil_append, requireEach_cons, show check position arg = .error cause from fails]
    rfl
  | cons first before ih =>
    obtain ⟨head, rest⟩ := List.forall_mem_cons.mp passes
    obtain ⟨contents, read⟩ := head position
    rw [List.length_cons, Nat.add_comm before.length, ← Nat.add_assoc] at fails
    rw [List.cons_append, requireEach_cons, read, ih rest fails]
    rfl

/-- Either all arguments have contents or one of them is the first without. -/
theorem contents_or_first_without {α : Type} (read : Value → Option α) (args : List Value) :
    (∃ found : List α, args.map read = found.map some) ∨
      ∃ before arg after, args = before ++ arg :: after ∧
        (∀ earlier ∈ before, (read earlier).isSome) ∧ read arg = none := by
  induction args with
  | nil => exact .inl ⟨[], rfl⟩
  | cons arg args ih =>
    cases first : read arg with
    | none => exact .inr ⟨[], arg, args, rfl, List.forall_mem_nil _, first⟩
    | some contents =>
      obtain ⟨found, same⟩ | ⟨before, other, after, rfl, passed, without⟩ := ih
      · exact .inl ⟨contents :: found, by rw [List.map_cons, List.map_cons, first, same]⟩
      · refine .inr ⟨arg :: before, other, after, rfl, ?_, without⟩
        exact List.forall_mem_cons.mpr ⟨by rw [first]; rfl, passed⟩

theorem read_ne_none {α : Type} {read : Value → Option α} {args : List Value} {found : List α}
    (same : args.map read = found.map some) : ∀ arg ∈ args, read arg ≠ none := by
  intro arg member without
  have missing : none ∈ found.map some := same ▸ without ▸ List.mem_map_of_mem member
  obtain ⟨_, _, impossible⟩ := List.mem_map.mp missing
  cases impossible

theorem requireLists_eq_ok_iff {name : String} {position : Nat} {args : List Value}
    {lists : List (List Value)} : requireEach (requireList name) position args = .ok lists ↔
      args.map Value.toList? = lists.map some := by
  apply requireEach_eq_ok_iff
  intro position arg items
  exact requireList_eq_ok_iff

end SchemeBase
