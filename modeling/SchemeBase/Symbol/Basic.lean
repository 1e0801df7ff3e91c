import Std.Data.TreeMap
import SchemeBase.Text.Record

/-! # Symbols

A symbol is a 32-bit handle. Its high byte is the tag of the table that issued it, the next four
bits name a shard of that table, and the low twenty bits a slot of the shard. The handle alone
does not know its spelling; a handle without a known spelling is shown by its three parts.
-/

namespace SchemeBase

/-- A handle issued by a symbol table. -/
structure Symbol where
  raw : UInt32
deriving DecidableEq, Repr

namespace Symbol

/-- Number of shards in every table. -/
abbrev shardCount : Nat := 16

/-- The last slot of a shard. -/
def maxSlot : Nat := 0xFFFFF

/-- The handle with the given parts; only the low twenty bits of the slot take part. -/
def ofParts (tag : UInt8) (shard : Fin shardCount) (slot : Nat) : Symbol :=
  ⟨UInt32.ofNat (tag.toNat * 0x1000000 + shard.val * 0x100000 + slot % 0x100000)⟩

/-- The tag of the table that issued the handle. -/
def tag (symbol : Symbol) : UInt8 :=
  UInt8.ofNat (symbol.raw.toNat / 0x1000000)

/-- The shard of that table. -/
def shard (symbol : Symbol) : Fin shardCount :=
  ⟨symbol.raw.toNat / 0x100000 % shardCount, Nat.mod_lt _ (by decide)⟩

/-- The slot of that shard. -/
def slot (symbol : Symbol) : Nat :=
  symbol.raw.toNat % 0x100000

theorem toNat_raw_ofParts (tag : UInt8) (shard : Fin shardCount) (slot : Nat) :
    (ofParts tag shard slot).raw.toNat =
      tag.toNat * 0x1000000 + shard.val * 0x100000 + slot % 0x100000 := by
  have := tag.toNat_lt
  have := shard.isLt
  simp only [ofParts, UInt32.toNat_ofNat']
  unfold shardCount at *
  omega

@[simp] theorem tag_ofParts (tag : UInt8) (shard : Fin shardCount) (slot : Nat) :
    (ofParts tag shard slot).tag = tag := by
  have := tag.toNat_lt
  have := shard.isLt
  apply UInt8.toNat_inj.1
  simp only [Symbol.tag, toNat_raw_ofParts, UInt8.toNat_ofNat']
  unfold shardCount at *
  omega

@[simp] theorem shard_ofParts (tag : UInt8) (shard : Fin shardCount) (slot : Nat) :
    (ofParts tag shard slot).shard = shard := by
  have := shard.isLt
  apply Fin.ext
  simp only [Symbol.shard, toNat_raw_ofParts]
  unfold shardCount at *
  omega

@[simp] theorem slot_ofParts (tag : UInt8) (shard : Fin shardCount) (slot : Nat) :
    (ofParts tag shard slot).slot = slot % 0x100000 := by
  simp only [Symbol.slot, toNat_raw_ofParts]
  omega

/-- Symbols are ordered as their handles. -/
instance : Ord Symbol := ⟨compareOn Symbol.raw⟩

instance : Std.TransOrd Symbol := inferInstanceAs (Std.TransCmp (compareOn Symbol.raw))

instance : Std.LawfulEqOrd Symbol where
  compare_self {a} := Std.compare_self (a := a.raw)
  eq_of_compare {a b} h := by
    have raw : a.raw = b.raw := Std.LawfulEqOrd.eq_of_compare h
    cases a; cases b; simp_all

/-- What stands for a symbol whose spelling is not known. -/
def placeholder (symbol : Symbol) : String :=
  "#<symbol " ++ toString symbol.tag.toNat ++ ":" ++ toString symbol.shard.val ++ ":" ++
    toString symbol.slot ++ ">"

/-- The three parts as a diagnostic shows them. -/
def diagnostic (symbol : Symbol) : String :=
  Text.wrapped "Symbol" ("table=" ++ toString symbol.tag.toNat ++ ", shard=" ++
    toString symbol.shard.val ++ ", local=" ++ toString symbol.slot)

end Symbol

end SchemeBase
