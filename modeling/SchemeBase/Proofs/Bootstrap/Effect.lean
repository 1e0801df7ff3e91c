import SchemeBase.Proofs.Bootstrap.Sequence

/-! # What a run adds

A run that succeeds reports its libraries and the number of different names that they bind. It binds
these names and no other symbols, each to a value that agrees with all its offers, and interns those
among them that the table lacks, where they first occur in the selection. Names that are offered again
take part in none of this.
-/

namespace SchemeBase

open Store

/-- The names that a table lacks, each once and in the order of first occurrence. -/
def SymbolTable.missing (table : SymbolTable) (names : List String) : List String :=
  names.eraseDups.filter fun name => (table.get? name).isNone

namespace Bootstrap

variable {store later : Store} {e : FrameId} {bootstrap : Bootstrap} {report : BootstrapReport}
  {staging : Staging}

/-- The number of staged bindings is that of the different names in the selection. -/
theorem size_bindings_of_stage {libraries : List Library} (staged : stage libraries = .ok staging) :
    staging.bindings.size = ((bindingsOf libraries).map Binding.name).toFinset.card := by
  have same : staging.names.toFinset = ((bindingsOf libraries).map Binding.name).toFinset := by
    rw [names_stage staged]
    ext name
    rw [List.mem_toFinset, List.mem_toFinset, List.mem_eraseDups]
  have distinct : staging.names.Nodup := staging.nodup_names
  rw [← same, List.toFinset_card_of_nodup distinct, Staging.names, List.length_map,
    Array.length_toList]

namespace Installed

variable (installed : bootstrap.Installed e store staging report later)

include installed

/-- Every offer of a name agrees with the value that the name is bound to. -/
theorem lookupNamed (valid : (store.tableOf e).WellFormed) (top : store.isGlobal e = true)
    {binding : Binding} (bound : binding ∈ bindingsOf bootstrap.libraries) :
    ∃ value, later.lookupNamed e binding.name = .ok value ∧ value.eqv binding.value = true := by
  obtain ⟨offer, offered, rfl⟩ := mem_bindingsOf_iff.mp bound
  obtain ⟨first, found⟩ := exists_firstOffer? offered
  obtain ⟨firstOffered, named⟩ := firstOffer?_eq_some found
  obtain ⟨_, agree⟩ := (forall_sound_iff _).mp installed.sound
  refine ⟨first.binding.value, ?_, agree first firstOffered offer offered named⟩
  rw [lookupNamed_of_isGlobal (installed.defined.isGlobal top) (installed.defined.wellFormed valid),
    installed.defined.named? valid, installed.holds.lastValue?_eq, found, Option.map_some,
    Option.some_or]

/-- A symbol that spells none of the names is bound as it was. -/
theorem local?_of_unnamed (valid : (store.tableOf e).WellFormed) {symbol : Symbol}
    (unnamed : ∀ name ∈ (bindingsOf bootstrap.libraries).map Binding.name,
      (later.tableOf e).get? name ≠ some symbol) :
    later.local? e symbol = store.local? e symbol := by
  refine installed.defined.local?_of_unnamed valid fun name staged => unnamed name ?_
  obtain ⟨offer, offered, rfl⟩ := installed.holds.mem_names_iff.mp staged
  exact List.mem_map_of_mem (mem_bindingsOf_iff.mpr ⟨offer, offered, rfl⟩)

end Installed

/-- The table interns just the names that it lacked, in the order of their first occurrence. -/
theorem interns_missing (staged : stage bootstrap.libraries = .ok staging)
    (defined : Defined e staging.bindings.toList store later) :
    ∃ log, log.map Prod.fst =
        (store.tableOf e).missing ((bindingsOf bootstrap.libraries).map Binding.name) ∧
      (store.tableOf e).Interns log (later.tableOf e) := by
  obtain ⟨log, names, run⟩ := defined.interns
  let lacks (name : String) : Bool := ((store.tableOf e).get? name).isNone
  have known (name : String) (dropped : lacks name = false) :
      ((store.tableOf e).get? name).isSome :=
    Option.isNone_eq_false_iff.mp dropped
  refine ⟨_, ?_, run.filter lacks known⟩
  rw [SymbolTable.missing, ← names_stage staged, Staging.names, ← names, List.filter_map]
  rfl

/-- A run that succeeds reports the libraries in order and counts the different names. Every name is
then bound to a value that agrees with each of its offers. The table has gained the names that it
lacked, in the order of their first occurrence, and no other spelling. A symbol that spells none of
the names is bound as it was, and no other frame and no other table has changed. -/
theorem run_effect (reachable : store.Reachable) (made : e < store.frames.size)
    (top : store.isGlobal e = true) (success : bootstrap.run e store = (.ok report, later)) :
    let names := (bindingsOf bootstrap.libraries).map Binding.name
    let missing := (store.tableOf e).missing names
    report.libraries = bootstrap.libraries.map Library.name ∧
    report.bindings = names.toFinset.card ∧
    (∀ library ∈ bootstrap.libraries, ∀ binding ∈ library.bindings, ∃ value,
      later.lookupNamed e binding.name = .ok value ∧ value.eqv binding.value = true) ∧
    (∃ log, log.map Prod.fst = missing ∧ (store.tableOf e).Interns log (later.tableOf e)) ∧
    (later.tableOf e).size = (store.tableOf e).size + missing.length ∧
    (∀ symbol, (∀ name ∈ names, (later.tableOf e).get? name ≠ some symbol) →
      later.local? e symbol = store.local? e symbol) ∧
    (∀ f, f ≠ e → later.frames[f]? = store.frames[f]?) ∧
    (later.frame e).parent = (store.frame e).parent ∧
    (later.frame e).table = (store.frame e).table ∧
    later.frames.size = store.frames.size ∧
    ∀ id, id ≠ (store.frame e).table → later.tables[id]? = store.tables[id]? := by
  intro names missing
  have ready := reachable.wellFormed.ready made
  obtain ⟨_, staging, staged, run, rfl⟩ := run_eq_ok_iff.mp success
  have defined := defined_of_defineAll ready run
  have installed := installed_of_staged staged defined
  obtain ⟨log, logged, interned⟩ := interns_missing staged defined
  have distinct : (log.map Prod.fst).Nodup := by
    rw [logged, SymbolTable.missing, ← names_stage staged]
    exact List.Nodup.filter _ staging.nodup_names
  have new (name : String) (member : name ∈ log.map Prod.fst) :
      (store.tableOf e).get? name = none := by
    rw [logged] at member
    exact Option.isNone_iff_eq_none.mp (List.mem_filter.mp member).2
  have counted : log.length = missing.length :=
    (List.length_map Prod.fst).symm.trans (congrArg List.length logged)
  have grown := interned.size_eq_of_new distinct new
  rw [counted] at grown
  refine ⟨rfl, size_bindings_of_stage staged, fun library selected binding bound => ?_,
    ⟨log, logged, interned⟩, grown, fun symbol => installed.local?_of_unnamed ready.valid,
    defined.frames, defined.parent, defined.table, defined.frames_size, defined.tables⟩
  exact installed.lookupNamed ready.valid top (List.mem_flatMap.mpr ⟨library, selected, bound⟩)

/-- The second library repeats both names of the first. Of the three names the table lacks two, and the
environment gives a value to the third and to a symbol of its own, which keeps it. -/
theorem run_effect_repeated :
    let one : Library := ⟨"one", [⟨"x", .integer 1⟩, ⟨"y", .boolean true⟩]⟩
    let two : Library := ⟨"two", [⟨"z", .null⟩, ⟨"y", .boolean true⟩, ⟨"x", .integer 1⟩]⟩
    let selection : Bootstrap := ⟨[.host one, .host two]⟩
    let store := (defineAll 0 [⟨"y", .null⟩, ⟨"own", .integer 7⟩] (createGlobal {}).2).2
    let run := selection.run 0 store
    let own : Symbol := .ofParts 0 6 0
    run.1 = .ok ⟨["one", "two"], 3⟩ ∧
      (store.tableOf 0).missing ["x", "y", "z", "y", "x"] = ["x", "z"] ∧
      (run.2.tableOf 0).size = (store.tableOf 0).size + 2 ∧
      (∃ value, run.2.lookupNamed 0 "y" = .ok value ∧ value.eqv (.boolean true) = true) ∧
      run.2.local? 0 own = store.local? 0 own ∧ (store.local? 0 own).isSome := by
  intro one two selection store run own
  have start : (createGlobal {}).2.Reachable := Reachable.createGlobal .refl
  have reachable : store.Reachable :=
    start.trans (changes_defineAll _ (start.wellFormed.ready Nat.one_pos))
  have made : 0 < store.frames.size := by decide +kernel
  have top : store.isGlobal 0 = true := by decide +kernel
  have success : run.1 = .ok ⟨["one", "two"], 3⟩ := by decide +kernel
  obtain ⟨_, _, bound, _, grown, kept, _⟩ :=
    run_effect reachable made top (Prod.fst_eq_iff.mp success)
  have names : (bindingsOf selection.libraries).map Binding.name = ["x", "y", "z", "y", "x"] := rfl
  have lacking : (store.tableOf 0).missing ["x", "y", "z", "y", "x"] = ["x", "z"] := by
    decide +kernel
  rw [names] at kept
  rw [names, lacking] at grown
  refine ⟨success, lacking, grown, ?_, kept own ?_, by decide +kernel⟩
  · exact bound two (.tail _ (.head _)) ⟨"y", .boolean true⟩ (.tail _ (.head _))
  · decide +kernel

end Bootstrap

end SchemeBase
