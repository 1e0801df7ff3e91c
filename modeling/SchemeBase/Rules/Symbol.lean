import SchemeBase.Rules.Boolean

/-! # Rules of the symbol primitives

The spelling of a symbol is answered as a new string each time, and only by the table that issued
the symbol. Making a symbol from a string interns it.
-/

namespace SchemeBase.SymbolPrimitive

/-- The spelling of a symbol as a new string. -/
def spell (table : TableId) (symbol : Symbol) : StoreM EvalError Value := do
  match ((← get).table table).resolve? symbol with
  | some spelling => Store.newString spelling
  | none => throw (.foreignSymbol toText.name symbol)

/-- The symbol of a spelling. -/
def internText (table : TableId) (text : String) : StoreM EvalError Value :=
  Value.symbol <$> (Store.internIn table text).mapError .internFailed

/-- Interning a text does to the store what interning its spelling does. -/
theorem internText_eq (table : TableId) (text : String) (store : Store) :
    internText table text store =
      (((Store.internIn table text store).1.map .symbol).mapError .internFailed,
        (Store.internIn table text store).2) := by
  rcases run : Store.internIn table text store with ⟨result, later⟩
  unfold internText
  rw [map_eq_pure_bind]
  cases result with
  | ok symbol => exact StoreM.bind_ok _ (StoreM.mapError_ok _ run)
  | error cause => exact StoreM.bind_error _ (StoreM.mapError_error _ run)

/-- What a symbol primitive does; a wrong number of arguments has no rule. -/
def step? (table : TableId) : SymbolPrimitive → List Value → Option Step
  | isSymbol, [x] => some (.answer (.boolean x.asSymbol?.isSome))
  | toText, [x] =>
    some <| .ofChecked <|
      (requireArg toText.name .symbol Value.asSymbol? 1 x).map fun symbol =>
        .finish (spell table symbol)
  | ofText, [x] =>
    some <| .ofChecked <|
      (requireArg ofText.name .string Value.asText? 1 x).map fun text =>
        .finish (internText table text)
  | sameSymbol, x :: y :: rest =>
    some <| .ofResult do
      let symbols ← requireEach
        (requireArg sameSymbol.name .symbol Value.asSymbol?) 1 (x :: y :: rest)
      return .boolean (BooleanPrimitive.allSame symbols)
  | _, _ => none

/-- There is a rule for just the argument counts that the arity accepts. -/
theorem isSome_step? (table : TableId) (primitive : SymbolPrimitive) (args : List Value) :
    (primitive.step? table args).isSome = primitive.arity.accepts args.length := by
  cases primitive <;> rcases args with _ | ⟨x, _ | ⟨y, _ | ⟨z, rest⟩⟩⟩ <;>
    simp [step?, arity, Arity.accepts, Arity.exactly, Arity.atLeast]

end SchemeBase.SymbolPrimitive
