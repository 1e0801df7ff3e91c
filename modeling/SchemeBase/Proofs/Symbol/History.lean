import Mathlib.Algebra.Order.BigOperators.Group.Finset
import SchemeBase.Proofs.Symbol.WellFormed

/-! # The history of a symbol table

A run that interns spellings one after another, with repetitions and in any order, is recorded as a
log of spellings and answers. As long as no shard overflows, one function gives the answer to every
entry of the log: a spelling has one symbol from its first interning on, and different spellings
have different ones. The main statement holds of a table at any point of its history, and says what
it knows at that point and what it goes on to know later.
-/

namespace SchemeBase.SymbolTable

/-- Interning the spellings of a log in order leads from one table to another. Every entry
succeeds, with the symbol that stands beside its spelling. -/
inductive Interns : SymbolTable → List (String × Symbol) → SymbolTable → Prop
  | nil (table : SymbolTable) : Interns table [] table
  | cons {table middle last : SymbolTable} {spelling : String} {symbol : Symbol}
      {log : List (String × Symbol)} :
      table.intern spelling = (.ok symbol, middle) → Interns middle log last →
      Interns table ((spelling, symbol) :: log) last

namespace Interns

variable {table middle last : SymbolTable} {first second log : List (String × Symbol)}

theorem append (left : table.Interns first middle) (right : middle.Interns second last) :
    table.Interns (first ++ second) last := by
  induction left with
  | nil => exact right
  | cons step _ ih => exact .cons step (ih right)

theorem wellFormed (run : table.Interns log last) (valid : table.WellFormed) : last.WellFormed := by
  induction run with
  | nil => exact valid
  | @cons table _ _ spelling _ _ step _ ih =>
    have kept := valid.intern spelling
    rw [step] at kept
    exact ih kept

theorem extension (run : table.Interns log last) : table.Extends last := by
  induction run with
  | nil => exact .refl _
  | @cons table _ _ spelling _ _ step _ ih =>
    have growth := table.extends_intern spelling
    rw [step] at growth
    exact growth.trans ih

/-- The last table has every answer of the log. -/
theorem get?_of_mem (run : table.Interns log last) {spelling : String} {symbol : Symbol}
    (logged : (spelling, symbol) ∈ log) : last.get? spelling = some symbol := by
  induction run with
  | nil => cases logged
  | cons step rest ih =>
    rcases List.mem_cons.mp logged with same | logged
    · cases same
      exact rest.extension.get? _ _ (by rw [get?_of_intern step, if_pos rfl])
    · exact ih logged

/-- The last table knows the spellings of the log and those that were known before. -/
theorem isSome_get?_iff (run : table.Interns log last) (spelling : String) :
    (last.get? spelling).isSome ↔ (table.get? spelling).isSome ∨ spelling ∈ log.map Prod.fst := by
  induction run with
  | nil => simp
  | cons step _ ih =>
    rw [ih, get?_of_intern step, List.map_cons, List.mem_cons]
    split
    · next same => simp [same]
    · next apart => simp [apart]

/-- If the size counts what a table knows, it still does so at the end of a run. -/
theorem size_eq_card (run : table.Interns log last) {known : Finset String}
    (knows : ∀ spelling, (table.get? spelling).isSome ↔ spelling ∈ known)
    (counted : table.size = known.card) :
    last.size = (known ∪ (log.map Prod.fst).toFinset).card := by
  induction run generalizing known with
  | nil => simpa using counted
  | @cons _ _ _ spelling symbol log step _ ih =>
    have union : known ∪ (((spelling, symbol) :: log).map Prod.fst).toFinset =
        insert spelling known ∪ (log.map Prod.fst).toFinset := by
      simp only [List.map_cons, List.toFinset_cons, Finset.union_insert, Finset.insert_union]
    rw [union]
    apply ih
    · intro other
      rw [get?_of_intern step, Finset.mem_insert, ← knows]
      split
      · next same => simp [same]
      · next apart => simp [apart]
    · rw [size_of_intern step, counted]
      by_cases old : spelling ∈ known
      · rw [if_pos ((knows _).mpr old), Finset.insert_eq_of_mem old, Nat.add_zero]
      · rw [if_neg (mt (knows _).mp old), Finset.card_insert_of_notMem old]

/-- New spellings that differ from one another are counted one by one. -/
theorem size_eq_of_new (run : table.Interns log last) (distinct : (log.map Prod.fst).Nodup)
    (new : ∀ spelling ∈ log.map Prod.fst, table.get? spelling = none) :
    last.size = table.size + log.length := by
  induction run with
  | nil => rfl
  | @cons table middle _ spelling symbol log step _ ih =>
    rw [List.map_cons] at distinct new
    obtain ⟨apart, distinct⟩ := List.nodup_cons.mp distinct
    obtain ⟨here, there⟩ := List.forall_mem_cons.mp new
    have later (other : String) (member : other ∈ log.map Prod.fst) : middle.get? other = none := by
      rw [get?_of_intern step, if_neg (by rintro rfl; exact apart member), there other member]
    have grown := size_of_intern step
    rw [here] at grown
    rw [ih distinct later, grown, List.length_cons, Option.isSome_none, if_neg Bool.false_ne_true]
    omega

/-- The last table comes from interning the spellings of the log in order. -/
theorem internAll_eq (run : table.Interns log last) :
    table.internAll (log.map Prod.fst) = last := by
  induction run with
  | nil => rfl
  | @cons table _ _ spelling _ log step _ ih =>
    change (table.intern spelling).2.internAll (log.map Prod.fst) = _
    rw [step, ih]

/-- Spellings that are known at the start may be left out of a run. -/
theorem filter (run : table.Interns log last) (keep : String → Bool)
    (known : ∀ spelling, keep spelling = false → (table.get? spelling).isSome) :
    table.Interns (log.filter fun entry => keep entry.1) last := by
  induction run with
  | nil => exact .nil _
  | @cons table middle _ spelling symbol _ step _ ih =>
    have later (other : String) (dropped : keep other = false) : (middle.get? other).isSome := by
      rw [get?_of_intern step]
      split
      · rfl
      · exact known other dropped
    rw [List.filter_cons]
    cases kept : keep spelling with
    | true => exact .cons step (ih later)
    | false =>
      obtain ⟨found, before⟩ := Option.isSome_iff_exists.mp (known spelling kept)
      cases (intern_of_get? before).symm.trans step
      exact ih later

/-- A run needs each spelling once, where it first occurs. -/
theorem exists_eraseDups (run : table.Interns log last) :
    ∃ once, once.map Prod.fst = (log.map Prod.fst).eraseDups ∧ table.Interns once last := by
  induction size : log.length using Nat.strongRecOn generalizing table log with
  | ind _ ih =>
    cases run with
    | nil => exact ⟨[], rfl, .nil _⟩
    | @cons _ middle _ spelling symbol log step rest =>
      have known (other : String) (dropped : (!other == spelling) = false) :
          (middle.get? other).isSome := by
        rw [get?_of_intern step, if_pos (by simpa using dropped)]
        rfl
      have shorter := rest.filter (fun other => !other == spelling) known
      have bound := List.length_filter_le (fun entry : String × Symbol => !entry.1 == spelling) log
      rw [List.length_cons] at size
      obtain ⟨once, names, run⟩ := ih _ (by omega) shorter rfl
      refine ⟨(spelling, symbol) :: once, ?_, .cons step run⟩
      rw [List.map_cons, List.map_cons, List.eraseDups_cons, List.filter_map, names]
      rfl

/-- Repetitions do not take part in what a run leads to. -/
theorem internAll_eraseDups (run : table.Interns log last) :
    table.internAll (log.map Prod.fst).eraseDups = last := by
  obtain ⟨once, names, short⟩ := run.exists_eraseDups
  rw [← names, short.internAll_eq]

end Interns

variable {table : SymbolTable}

/-- Known spellings change nothing. -/
theorem internAll_of_known {spellings : List String}
    (known : ∀ spelling ∈ spellings, (table.get? spelling).isSome) :
    table.internAll spellings = table := by
  induction spellings with
  | nil => rfl
  | cons spelling rest ih =>
    obtain ⟨here, there⟩ := List.forall_mem_cons.mp known
    obtain ⟨symbol, found⟩ := Option.isSome_iff_exists.mp here
    change (table.intern spelling).2.internAll rest = table
    rw [intern_of_get? found, ih there]

/-! ## The spellings of a new table -/

/-- There is room for a spelling while the whole table holds less than one shard can. -/
theorem WellFormed.exists_intern (valid : table.WellFormed) (room : table.size ≤ Symbol.maxSlot)
    (spelling : String) : ∃ symbol, (table.intern spelling).1 = .ok symbol := by
  obtain ⟨symbol, _, run⟩ | ⟨_, _, run⟩ | ⟨_, full, _⟩ := table.intern_cases spelling
  · exact ⟨symbol, by rw [run]⟩
  · exact ⟨_, by rw [run]⟩
  · have part := Finset.single_le_sum (f := fun home : Fin Symbol.shardCount =>
      (table.shard home).spellings.size) (fun _ _ => Nat.zero_le _)
      (Finset.mem_univ (shardOf spelling))
    have := valid.size_eq
    omega

/-- A few spellings are all interned. -/
theorem WellFormed.interns_internAll (valid : table.WellFormed) {spellings : List String}
    (room : table.size + spellings.length ≤ Symbol.maxSlot + 1) :
    ∃ log, log.map Prod.fst = spellings ∧ table.Interns log (table.internAll spellings) := by
  induction spellings generalizing table with
  | nil => exact ⟨[], rfl, .nil table⟩
  | cons spelling rest ih =>
    rw [List.length_cons] at room
    obtain ⟨symbol, answer⟩ := valid.exists_intern (by omega) spelling
    have step : table.intern spelling = (.ok symbol, (table.intern spelling).2) := by
      rw [← answer]
    have grown := size_of_intern step
    obtain ⟨log, same, run⟩ := ih (valid.intern spelling) (by split at grown <;> omega)
    exact ⟨(spelling, symbol) :: log, by rw [List.map_cons, same], .cons step run⟩

theorem interns_create (tag : UInt8) :
    ∃ log, log.map Prod.fst = coreSpellings ∧ (bare tag).Interns log (create tag) :=
  (bare_wellFormed tag).interns_internAll
    (by change 1 + coreSpellings.length ≤ Symbol.maxSlot + 1; decide)

/-- The spellings that a table was created with, and those of a log. -/
def spellingsAfter (log : List (String × Symbol)) : List String :=
  "" :: coreSpellings ++ log.map Prod.fst

private theorem isSome_get?_iff_mem {tag : UInt8} {log : List (String × Symbol)}
    (run : (create tag).Interns log table) (spelling : String) :
    (table.get? spelling).isSome ↔ spelling ∈ spellingsAfter log := by
  obtain ⟨core, same, made⟩ := interns_create tag
  rw [(made.append run).isSome_get?_iff, List.map_append, same, get?_bare, spellingsAfter]
  by_cases empty : spelling = "" <;> simp [empty]

private theorem size_eq_card_spellingsAfter {tag : UInt8} {log : List (String × Symbol)}
    (run : (create tag).Interns log table) : table.size = (spellingsAfter log).toFinset.card := by
  obtain ⟨core, same, made⟩ := interns_create tag
  have start (spelling : String) :
      ((bare tag).get? spelling).isSome ↔ spelling ∈ ({""} : Finset String) := by
    rw [get?_bare, Finset.mem_singleton]
    by_cases empty : spelling = "" <;> simp [empty]
  rw [(made.append run).size_eq_card start (Finset.card_singleton "").symm, List.map_append, same,
    spellingsAfter, List.cons_append, List.toFinset_cons, Finset.insert_eq]

/-- At every point of the history of a table one function knows the symbols. All answers that were
given and will be given come from it, on the spellings of the history it is injective, and the
table at that point finds and resolves by it exactly what has been interned so far. -/
theorem Interns.exists_handle {tag : UInt8} {past future : List (String × Symbol)}
    {table later : SymbolTable} (reached : (create tag).Interns past table)
    (continued : table.Interns future later) :
    ∃ handle : String → Symbol,
      (∀ spelling symbol, (spelling, symbol) ∈ past ++ future → symbol = handle spelling) ∧
      (∀ a ∈ spellingsAfter (past ++ future), ∀ b ∈ spellingsAfter (past ++ future),
        handle a = handle b ↔ a = b) ∧
      (∀ spelling ∈ spellingsAfter past, table.resolve? (handle spelling) = some spelling ∧
        later.resolve? (handle spelling) = some spelling) ∧
      (∀ spelling symbol, table.get? spelling = some symbol ↔
        spelling ∈ spellingsAfter past ∧ symbol = handle spelling) ∧
      (∀ symbol, symbol.tag = tag →
        ((table.resolve? symbol).isSome ↔ ∃ spelling ∈ spellingsAfter past, symbol = handle spelling)) ∧
      table.size = (spellingsAfter past).toFinset.card ∧ table.WellFormed := by
  have whole := reached.append continued
  have valid := reached.wellFormed (create_wellFormed tag)
  have validLater := continued.wellFormed valid
  -- The last table of the run has every symbol, so it supplies the function.
  let handle (spelling : String) : Symbol := (later.get? spelling).getD later.emptySymbol
  have handle_eq {spelling : String} {symbol : Symbol} (found : later.get? spelling = some symbol) :
      handle spelling = symbol := by simp only [handle, found, Option.getD_some]
  have found {spelling : String} (member : spelling ∈ spellingsAfter (past ++ future)) :
      later.get? spelling = some (handle spelling) := by
    have known := (isSome_get?_iff_mem whole _).mpr member
    obtain ⟨symbol, found⟩ := Option.isSome_iff_exists.mp known
    rw [handle_eq found, found]
  have early {spelling : String} {symbol : Symbol} : table.get? spelling = some symbol ↔
      spelling ∈ spellingsAfter past ∧ symbol = handle spelling := by
    constructor
    · intro now
      exact ⟨(isSome_get?_iff_mem reached _).mp (by rw [now]; rfl),
        (handle_eq (continued.extension.get? _ _ now)).symm⟩
    · rintro ⟨member, rfl⟩
      have known := (isSome_get?_iff_mem reached _).mpr member
      obtain ⟨symbol, now⟩ := Option.isSome_iff_exists.mp known
      rw [now, handle_eq (continued.extension.get? _ _ now)]
  refine ⟨handle, ?_, ?_, ?_, fun _ _ => early, ?_, size_eq_card_spellingsAfter reached, valid⟩
  · intro spelling symbol logged
    exact (handle_eq (whole.get?_of_mem logged)).symm
  · intro a memberA b memberB
    constructor
    · intro same
      exact validLater.get?_inj (found memberA) (by rw [same]; exact found memberB)
    · rintro rfl
      rfl
  · intro spelling member
    have now := valid.get?_eq_some_iff.mp (early.mpr ⟨member, rfl⟩)
    exact ⟨now, continued.extension.resolve? valid validLater now⟩
  · intro symbol _
    constructor
    · intro resolved
      obtain ⟨spelling, read⟩ := Option.isSome_iff_exists.mp resolved
      exact ⟨spelling, early.mp (valid.get?_eq_some_iff.mpr read)⟩
    · rintro ⟨spelling, member, rfl⟩
      rw [valid.get?_eq_some_iff.mp (early.mpr ⟨member, rfl⟩)]
      rfl

/-- Two spellings with the same first eight bytes share a shard and have different symbols. -/
theorem exists_handle_of_equal_starts :
    let named := (create 3).intern "long-name-1"
    let again := named.2.intern "long-name-2"
    named.1 = .ok (.ofParts 3 9 2) ∧ again.1 = .ok (.ofParts 3 9 3) ∧
      ∃ handle : String → Symbol, handle "long-name-1" = .ofParts 3 9 2 ∧
        handle "long-name-2" = .ofParts 3 9 3 ∧
        named.2.resolve? (handle "long-name-1") = some "long-name-1" ∧
        again.2.resolve? (handle "long-name-1") = some "long-name-1" := by
  intro named again
  have first : named.1 = .ok (.ofParts 3 9 2) := by decide +kernel
  have second : again.1 = .ok (.ofParts 3 9 3) := by decide +kernel
  have reached : (create 3).Interns [("long-name-1", .ofParts 3 9 2)] named.2 :=
    .cons (by rw [← first]) (.nil _)
  have continued : named.2.Interns [("long-name-2", .ofParts 3 9 3)] again.2 :=
    .cons (by rw [← second]) (.nil _)
  obtain ⟨handle, answers, _, resolves, _⟩ := reached.exists_handle continued
  refine ⟨first, second, handle, ?_, ?_, resolves "long-name-1" ?_⟩
  · exact (answers _ _ (by simp)).symm
  · exact (answers _ _ (by simp)).symm
  · simp [spellingsAfter]

end SchemeBase.SymbolTable
