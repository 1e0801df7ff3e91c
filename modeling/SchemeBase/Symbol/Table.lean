import SchemeBase.Symbol.Basic

/-! # Symbol tables

A table gives each spelling one symbol and finds the spelling of a symbol again. Spellings are
spread over sixteen shards by a hash of their first eight bytes; inside a shard they take slots in
order of arrival. A table is refused a new spelling only when the shard of that spelling is full,
and then stays as it was.
-/

namespace SchemeBase

/-- Why a spelling cannot be interned. -/
inductive InternError where
  /-- The shard already holds `count` spellings. -/
  | shardFull (shard count : Nat)
deriving DecidableEq, Repr

/-- The wording of the error. -/
def InternError.message : InternError → String
  | shardFull shard count =>
    "symbol table shard " ++ toString shard ++ " is full: " ++ toString count ++
      " symbols, max is " ++ toString Symbol.maxSlot

/-- One shard: the spellings by slot, and the slot of each spelling. -/
structure Shard where
  spellings : Array String := #[]
  slots : Std.TreeMap String Nat := {}

namespace Shard

/-- Gives a spelling the next free slot. -/
def push (shard : Shard) (spelling : String) : Shard where
  spellings := shard.spellings.push spelling
  slots := shard.slots.insert spelling shard.spellings.size

end Shard

/-- A symbol table: the tag in its handles, its shards, and how many spellings they hold. -/
structure SymbolTable where
  tag : UInt8
  shards : Vector Shard Symbol.shardCount
  size : Nat

/-- A symbol was asked for in a table that never issued it. -/
structure ForeignHandle where
  symbol : Symbol
deriving DecidableEq, Repr

/-- The wording of the complaint. -/
def ForeignHandle.message (error : ForeignHandle) : String :=
  error.symbol.diagnostic ++ " was not interned by this table"

namespace SymbolTable

/-- The special-form keywords and the constant names, which every table knows from the start. -/
def coreSpellings : List String :=
  ["quote", "quasiquote", "unquote", "unquote-splicing", "if", "define", "set!", "lambda",
    "begin", "let", "let*", "letrec", "and", "or", "cond", "case", "else", "=>", "do", "delay",
    "defmacro", "true", "false", "error", "apply"]

/-- The hash of a spelling: its first eight bytes as digits in base 31, modulo 2³². -/
def spellingHash (spelling : String) : UInt32 :=
  (spelling.toByteArray.extract 0 8).data.foldl (fun hash byte => hash * 31 + byte.toUInt32) 0

/-- The shard in which a spelling lives. -/
def shardOf (spelling : String) : Fin Symbol.shardCount :=
  ⟨(spellingHash spelling).toNat % Symbol.shardCount, Nat.mod_lt _ (by decide)⟩

/-- The shard with a given number. -/
def shard (table : SymbolTable) (number : Fin Symbol.shardCount) : Shard :=
  table.shards[number]

/-- A table that holds the empty spelling alone, in the first slot of the first shard. -/
def bare (tag : UInt8) : SymbolTable where
  tag := tag
  shards := (Vector.replicate Symbol.shardCount {}).set 0 (Shard.push {} "") (by decide)
  size := 1

/-- The symbol of a spelling, if the table has it. -/
def get? (table : SymbolTable) (spelling : String) : Option Symbol :=
  let home := shardOf spelling
  (table.shard home).slots[spelling]?.map (Symbol.ofParts table.tag home)

/-- Gives a spelling the next free slot of its shard. -/
def push (table : SymbolTable) (spelling : String) : SymbolTable :=
  let home := shardOf spelling
  { table with
    shards := table.shards.set home ((table.shard home).push spelling)
    size := table.size + 1 }

/-- The symbol of a spelling, together with the table that knows it. A known spelling keeps its
symbol, and a new one takes the next slot of its shard if there is one. -/
def intern (table : SymbolTable) (spelling : String) : Except InternError Symbol × SymbolTable :=
  match table.get? spelling with
  | some symbol => (.ok symbol, table)
  | none =>
    let home := shardOf spelling
    let slot := (table.shard home).spellings.size
    if slot ≤ Symbol.maxSlot then
      (.ok (Symbol.ofParts table.tag home slot), table.push spelling)
    else
      (.error (.shardFull home slot), table)

/-- Interns spellings in order, whatever becomes of each. -/
def internAll (table : SymbolTable) (spellings : List String) : SymbolTable :=
  spellings.foldl (fun table spelling => (table.intern spelling).2) table

/-- A table as it is created, with the core spellings. -/
def create (tag : UInt8) : SymbolTable :=
  (bare tag).internAll coreSpellings

/-- The spelling of a symbol, if this table issued it. -/
def resolve? (table : SymbolTable) (symbol : Symbol) : Option String :=
  if symbol.tag = table.tag then (table.shard symbol.shard).spellings[symbol.slot]? else none

/-- The spelling of a symbol that this table is expected to have issued. -/
def resolve (table : SymbolTable) (symbol : Symbol) : Except ForeignHandle String :=
  match table.resolve? symbol with
  | some spelling => .ok spelling
  | none => .error ⟨symbol⟩

/-- Whether this table issued a symbol. -/
def owns (table : SymbolTable) (symbol : Symbol) : Bool :=
  (table.resolve? symbol).isSome

/-- The spelling of a symbol, or its placeholder. -/
def spelling (table : SymbolTable) (symbol : Symbol) : String :=
  (table.resolve? symbol).getD symbol.placeholder

/-- The symbol of the empty spelling. -/
def emptySymbol (table : SymbolTable) : Symbol :=
  Symbol.ofParts table.tag 0 0

/-- Whether the table holds no spelling besides the empty one. -/
def isEmpty (table : SymbolTable) : Bool :=
  table.size ≤ 1

/-- The table as a diagnostic shows it. -/
def diagnostic (table : SymbolTable) : String :=
  Text.record "SymbolTable"
    [("tag", toString table.tag.toNat), ("len", toString table.size)] true

/-- A handle that shares the table, as a diagnostic shows it. -/
def sharedDiagnostic (table : SymbolTable) : String :=
  Text.wrapped "SharedSymbolTable" table.diagnostic

end SymbolTable

end SchemeBase
