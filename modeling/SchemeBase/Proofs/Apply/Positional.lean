import SchemeBase.Apply

/-! # Built-ins that take their arguments by position

A built-in may be written so that it takes its arguments by position, trusting that they have been
counted. A position beyond them is no error of the program that is run: it brings everything to an end,
and so does a symbol for which its table has no room. Here every built-in has a body of this kind, with
all positions, slices and lengths that it goes by, and the three that apply a procedure go by rows of
elements at the same position of each list.
-/

namespace SchemeBase

/-- Why everything came to an end. -/
inductive Abort where
  /-- An element was taken at a position that the items do not have. -/
  | outOfRange (index length : Nat)
  /-- A slice was taken whose ends are out of order or beyond the items. -/
  | badSlice (start stop length : Nat)
  /-- A length was made smaller than nothing. -/
  | underflow (length less : Nat)
  /-- A symbol was made in a table that has no room for it. -/
  | shardFull (cause : InternError)
  /-- Applications were nested too deep. -/
  | tooDeep
deriving DecidableEq, Repr

/-- A computation of an executor that may come to an end without an outcome. -/
abbrev BodyM (σ α : Type) := ExceptT EvalError (ExceptT Abort (StateM (Machine σ))) α

namespace BodyM

variable {σ α β : Type} {args : List Value}

/-- Comes to an end. -/
def abort (cause : Abort) : BodyM σ α := fun machine => (.error cause, machine)

/-- A computation that has an outcome. -/
def ofTotal (computation : EvalM σ α) : BodyM σ α := fun machine =>
  (.ok (computation machine).1, (computation machine).2)

/-- A result that has been found already. -/
def ofResult (result : Except EvalError α) : BodyM σ α := fun machine => (.ok result, machine)

/-- Carries out a step in the store. -/
def ofStore (step : StoreM EvalError α) : BodyM σ α := ofTotal (EvalM.ofStore step)

/-- Makes a symbol. -/
def intern (table : TableId) (text : String) : BodyM σ Symbol := fun ⟨store, state⟩ =>
  match Store.internIn table text store with
  | (.ok symbol, later) => (.ok (.ok symbol), ⟨later, state⟩)
  | (.error cause, later) => (.error (.shardFull cause), ⟨later, state⟩)

/-- The item at a position. -/
def readAt (items : List α) (i : Nat) : BodyM σ α :=
  match items[i]? with
  | some item => pure item
  | none => abort (.outOfRange i items.length)

/-- The items from the position `start` to the one before `stop`. -/
def slice (items : List α) (start stop : Nat) : BodyM σ (List α) :=
  if start ≤ stop ∧ stop ≤ items.length then pure ((items.take stop).drop start)
  else abort (.badSlice start stop items.length)

/-- A length without its last positions. -/
def shorten (length less : Nat) : BodyM σ Nat :=
  if less ≤ length then pure (length - less) else abort (.underflow length less)

/-- The contents that `read` finds in the argument at a position. An argument of another type is looked
at once more for the error, which counts positions from one. -/
def argAt (name : String) (expected : ValueType) (read : Value → Option α) (args : List Value)
    (i : Nat) : BodyM σ α := do
  match read (← readAt args i) with
  | some contents => return contents
  | none => throw (.typeMismatch name (i + 1) expected (← readAt args i).type)

/-- The argument at a position if it is a procedure. -/
def procedureAt (name : String) (args : List Value) (i : Nat) : BodyM σ Value := do
  if (← readAt args i).isProcedure then readAt args i
  else throw (.typeMismatch name (i + 1) .procedure (← readAt args i).type)

/-- The elements of the argument at a position if it is a proper list. -/
def listAt (name : String) (args : List Value) (i : Nat) : BodyM σ (List Value) := do
  match (← readAt args i).toList? with
  | some items => return items
  | none => throw (.improperList name (i + 1))

/-- Whether the contents at the first position stand at all others too. Every argument is read, also
behind one that differs. -/
def sameAt [BEq α] (read : Nat → BodyM σ α) (count : Nat) : BodyM σ Value := do
  let first ← read 0
  let same ← (List.range' 1 (count - 1)).foldlM (fun same i => return (← read i) == first && same) true
  return .boolean same

/-! ## Reading what is there -/

theorem readAt_eq {items : List α} {i : Nat} {item : α} (found : items[i]? = some item) :
    (readAt items i : BodyM σ α) = pure item := by
  rw [readAt, found]

theorem slice_eq {items : List α} {start stop : Nat} (ordered : start ≤ stop)
    (inside : stop ≤ items.length) :
    (slice items start stop : BodyM σ (List α)) = pure ((items.take stop).drop start) :=
  if_pos ⟨ordered, inside⟩

theorem argAt_eq {name : String} {expected : ValueType} {read : Value → Option α} {i : Nat}
    {arg : Value} (found : args[i]? = some arg) :
    (argAt name expected read args i : BodyM σ α) =
      ofResult (requireArg name expected read (i + 1) arg) := by
  rw [argAt, readAt_eq found, pure_bind, requireArg]
  cases read arg with
  | some contents => rfl
  | none => simp only [pure_bind]; rfl

theorem procedureAt_eq {name : String} {i : Nat} {arg : Value} (found : args[i]? = some arg) :
    (procedureAt name args i : BodyM σ Value) = ofResult (requireProcedure name (i + 1) arg) := by
  rw [procedureAt, readAt_eq found, pure_bind, pure_bind, requireProcedure, requireArg]
  cases arg.isProcedure <;> rfl

theorem listAt_eq {name : String} {i : Nat} {arg : Value} (found : args[i]? = some arg) :
    (listAt name args i : BodyM σ (List Value)) = ofResult (requireList name (i + 1) arg) := by
  rw [listAt, readAt_eq found, pure_bind, requireList]
  cases arg.toList? <;> rfl

theorem bind_apply (body : BodyM σ α) (next : α → BodyM σ β) (machine : Machine σ) :
    (body >>= next) machine =
      ExceptT.bindCont (ExceptT.bindCont next) (body machine).1 (body machine).2 :=
  rfl

theorem ofResult_bind (result : Except EvalError α) (next : α → Except EvalError β) :
    (ofResult (result >>= next) : BodyM σ β) = ofResult result >>= fun a => ofResult (next a) := by
  cases result <;> rfl

theorem ofResult_map (result : Except EvalError α) (f : α → β) :
    (ofResult (result.map f) : BodyM σ β) = ofResult result >>= fun a => pure (f a) := by
  cases result <;> rfl

theorem mapM_map {γ : Type} (f : β → γ) (read : α → BodyM σ β) (items : List α) :
    items.mapM (fun item => f <$> read item) = List.map f <$> items.mapM read := by
  induction items with
  | nil => rfl
  | cons item items ih => simp [List.mapM_cons, ih]

/-- Reading the positions from `start` on checks the arguments. -/
def Checks (read : Nat → BodyM σ α) (check : Nat → Value → Except EvalError α) (start : Nat)
    (args : List Value) : Prop :=
  ∀ i arg, args[i]? = some arg → read (start + i) = ofResult (check (start + i + 1) arg)

namespace Checks

variable {read : Nat → BodyM σ α} {check : Nat → Value → Except EvalError α} {start : Nat} {arg : Value}

theorem argAt {name : String} {expected : ValueType} {contents : Value → Option α} :
    Checks (argAt name expected contents args : Nat → BodyM σ α) (requireArg name expected contents)
      0 args := by
  intro i arg found
  rw [Nat.zero_add]
  exact argAt_eq found

theorem listAt {name : String} :
    Checks (listAt name args : Nat → BodyM σ (List Value)) (requireList name) 0 args := by
  intro i arg found
  rw [Nat.zero_add]
  exact listAt_eq found

theorem head (checks : Checks read check start (arg :: args)) :
    read start = ofResult (check (start + 1) arg) :=
  checks 0 arg rfl

theorem tail (checks : Checks read check start (arg :: args)) : Checks read check (start + 1) args := by
  intro i other found
  rw [Nat.add_right_comm]
  exact checks (i + 1) other found

theorem mapM_eq (checks : Checks read check start args) :
    (List.range' start args.length).mapM read = ofResult (requireEach check (start + 1) args) := by
  induction args generalizing start with
  | nil =>
    rw [requireEach_nil]
    rfl
  | cons arg args ih =>
    rw [List.length_cons, List.range'_succ, List.mapM_cons, requireEach_cons, checks.head,
      ih checks.tail]
    simp only [ofResult_bind]
    rfl

/-- Comparing as the positions are read, with an answer for those before, compares all contents. -/
theorem foldlM_eq [BEq α] (checks : Checks read check start args) (first : α) (same : Bool) :
    (List.range' start args.length).foldlM (fun same i => return (← read i) == first && same) same =
      ofResult ((requireEach check (start + 1) args).map fun values =>
        values.all (· == first) && same) := by
  induction args generalizing start same with
  | nil =>
    rw [requireEach_nil]
    rfl
  | cons arg args ih =>
    rw [List.length_cons, List.range'_succ, List.foldlM_cons, requireEach_cons, checks.head]
    simp only [bind_assoc, pure_bind, ih checks.tail, ← ofResult_bind]
    congr 1
    cases check (start + 1) arg with
    | error cause => rfl
    | ok value =>
      cases requireEach check (start + 1 + 1) args with
      | error cause => rfl
      | ok values =>
        change Except.ok (values.all (· == first) && (value == first && same)) =
          Except.ok ((value :: values).all (· == first) && same)
        rw [List.all_cons, Bool.and_left_comm, Bool.and_assoc]

theorem sameAt_eq [BEq α] (checks : Checks read check 0 (arg :: args)) :
    sameAt read (arg :: args).length = ofResult (do
      let values ← requireEach check 1 (arg :: args)
      return .boolean (BooleanPrimitive.allSame values)) := by
  rw [sameAt, checks.head, requireEach_cons, List.length_cons, Nat.add_sub_cancel]
  simp only [checks.tail.foldlM_eq, Bool.and_true]
  cases check (0 + 1) arg with
  | error cause => rfl
  | ok first => cases requireEach check (0 + 1 + 1) args <;> rfl

end Checks

end BodyM

open BodyM

variable {σ : Type}

namespace ProcedurePrimitive

/-- The elements of all arguments behind the first, and how many the shortest of them has. -/
def columns (name : String) (args : List Value) : BodyM σ (List (List Value) × Nat) := do
  let lists ← (List.range' 1 (args.length - 1)).mapM (listAt name args)
  return (lists, (lists.map List.length).min?.getD 0)

/-- The elements that all lists have at a position. -/
def rowAt (lists : List (List Value)) (i : Nat) : BodyM σ (List Value) :=
  lists.mapM (readAt · i)

/-- Applies a procedure to the elements at a position. -/
def callRow (call : Value → List Value → BodyM σ Value) (procedure : Value) (lists : List (List Value))
    (i : Nat) : BodyM σ Value := do
  call procedure (← rowAt lists i)

/-- The bodies of the procedure primitives, where `call` applies a procedure. -/
def body (call : Value → List Value → BodyM σ Value) (args : List Value) :
    ProcedurePrimitive → BodyM σ Value
  | isProcedure => return .boolean (← readAt args 0).isProcedure
  | apply => do
    let procedure ← procedureAt apply.name args 0
    let last ← shorten args.length 1
    let leading ← slice args 1 last
    let items ← listAt apply.name args last
    call procedure (leading ++ items)
  | map => do
    let procedure ← procedureAt map.name args 0
    let (lists, shortest) ← columns map.name args
    let answers ← (List.range shortest).mapM (callRow call procedure lists)
    ofStore (Store.newList answers)
  | forEach => do
    let procedure ← procedureAt forEach.name args 0
    let (lists, shortest) ← columns forEach.name args
    (List.range shortest).forM fun i => discard (callRow call procedure lists i)
    return .unspecified
  | arityOf => do
    let arity ← ofResult (requireArg arityOf.name .procedure Value.arity? 1 (← readAt args 0))
    ofStore (arityPair arity)

end ProcedurePrimitive

/-- Each two neighbours. -/
def neighbours {α : Type} : List α → List (List α)
  | a :: b :: rest => [a, b] :: neighbours (b :: rest)
  | _ => []

/-- The bodies of the character primitives. -/
def CharacterPrimitive.body (args : List Value) : CharacterPrimitive → BodyM σ Value
  | isChar => return .boolean (← readAt args 0).asChar?.isSome
  | compare foldCase relation => do
    let chars ← (List.range args.length).mapM fun i =>
      folded foldCase <$> argAt (compare foldCase relation).name .char Value.asChar? args i
    let ordered ← (neighbours chars).allM fun pair =>
      return relation.holds (← readAt pair 0) (← readAt pair 1)
    return .boolean ordered
  | classify kind =>
    return .boolean (kind.contains (← argAt (classify kind).name .char Value.asChar? args 0))
  | toInteger => return .integer (Int64.ofNat (← argAt toInteger.name .char Value.asChar? args 0).toNat)
  | ofInteger => do
    let code ← argAt ofInteger.name .integer Value.asInteger? args 0
    match charOfCode? code with
    | some c => return .char c
    | none => throw (.invalidCharCode code)
  | upcase => return .char (Unicode.upcase (← argAt upcase.name .char Value.asChar? args 0))
  | downcase => return .char (Unicode.downcase (← argAt downcase.name .char Value.asChar? args 0))

namespace ConditionPrimitive

/-- A condition with the message of the first argument and the others as irritants. -/
def conditionOf (table : TableId) (args : List Value) : BodyM σ Value := do
  let first ← readAt args 0
  let irritants ← slice args 1 args.length
  ofStore (build table first irritants)

/-- The bodies of the error primitives. -/
def body (table : TableId) (args : List Value) : ConditionPrimitive → BodyM σ Value
  | error => do
    let condition ← conditionOf table args
    ofStore (signal table condition)
  | raise => do ofStore (signal table (← readAt args 0))
  | isErrorObject => return .boolean (← readAt args 0).asCondition?.isSome
  | messageOf => do
    let (message, _) ← argAt messageOf.name .condition Value.asCondition? args 0
    ofStore (Store.newString message)
  | irritantsOf => do
    let (_, irritants) ← argAt irritantsOf.name .condition Value.asCondition? args 0
    ofStore (Store.newList irritants)
  | make => conditionOf table args

end ConditionPrimitive

/-- The bodies of the symbol primitives. -/
def SymbolPrimitive.body (table : TableId) (args : List Value) : SymbolPrimitive → BodyM σ Value
  | isSymbol => return .boolean (← readAt args 0).asSymbol?.isSome
  | toText => do ofStore (spell table (← argAt toText.name .symbol Value.asSymbol? args 0))
  | ofText => do
    let text ← argAt ofText.name .string Value.asText? args 0
    return .symbol (← intern table text)
  | sameSymbol => sameAt (argAt sameSymbol.name .symbol Value.asSymbol? args) args.length

/-- The bodies of the boolean primitives. -/
def BooleanPrimitive.body (args : List Value) : BooleanPrimitive → BodyM σ Value
  | not => return .boolean !(← readAt args 0).isTrue
  | isBoolean => return .boolean (← readAt args 0).asBoolean?.isSome
  | eq => return .boolean ((← readAt args 0).eqv (← readAt args 1))
  | eqv => return .boolean ((← readAt args 0).eqv (← readAt args 1))
  | equal => return .boolean ((← readAt args 0).equal (← readAt args 1))
  | sameBoolean => sameAt (argAt sameBoolean.name .boolean Value.asBoolean? args) args.length

/-- The body of a built-in, where `call` applies a procedure. -/
def Builtin.body (table : TableId) (call : Value → List Value → BodyM σ Value) (args : List Value) :
    Builtin → BodyM σ Value
  | procedure primitive => primitive.body call args
  | character primitive => primitive.body args
  | condition primitive => primitive.body table args
  | symbol primitive => primitive.body table args
  | boolean primitive => primitive.body args

namespace Executor

/-- Applies a built-in by its body once its arguments are counted, where `call` makes the applications
that the body asks for. Other values are applied as ever. -/
def applyBody (executor : Executor σ) (call : Value → List Value → BodyM σ Value) (f : Value)
    (args : List Value) : BodyM σ Value :=
  match f with
  | .primitive (.builtin builtin) =>
    if builtin.arity.accepts args.length then builtin.body executor.table call args
    else throw (.arityMismatch builtin.name builtin.arity args.length)
  | other => ofTotal (executor.apply other args)

/-- Applies procedures with all built-ins by their bodies. Applications nest at most to a given depth,
and everything comes to an end at a deeper one. -/
def applyBodies (executor : Executor σ) : Nat → Value → List Value → BodyM σ Value
  | 0 => executor.applyBody fun _ _ => abort .tooDeep
  | depth + 1 => executor.applyBody (executor.applyBodies depth)

end Executor

end SchemeBase
