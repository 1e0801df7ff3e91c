import Mathlib.Data.List.Induction
import Mathlib.Data.List.Nodup
import Mathlib.Data.List.TakeWhile
import SchemeBase.Bootstrap

/-! # Building a selection

A selection is built in steps: a built-in library is added, all built-in libraries are replaced, or a
host library is added. What is selected in the end is read off the steps. Built-in libraries count from
the last replacement on, each where it is first named; host libraries count from the start and as often
as they were added, under whatever name.
-/

namespace SchemeBase

namespace Selection

/-- The kind of a built-in library. -/
def kind? : Selection → Option LibraryKind
  | builtin kind => some kind
  | host _ => none

/-- The library that a host supplies. -/
def host? : Selection → Option Library
  | builtin _ => none
  | host library => some library

theorem filterMap_kind?_builtin (kinds : List LibraryKind) :
    (kinds.map builtin).filterMap kind? = kinds := by
  rw [List.filterMap_map]
  exact List.filterMap_some

theorem filterMap_host?_builtin (kinds : List LibraryKind) :
    (kinds.map builtin).filterMap host? = [] := by
  simp [host?]

theorem filterMap_kind?_hosts (selections : List Selection) :
    (selections.filter isHost).filterMap kind? = [] := by
  rw [List.filterMap_eq_nil_iff]
  intro selection member
  cases selection with
  | builtin => cases (List.mem_filter.mp member).2
  | host => rfl

theorem filterMap_host?_hosts (selections : List Selection) :
    (selections.filter isHost).filterMap host? = selections.filterMap host? := by
  rw [List.filterMap_filter]
  congr 1
  funext selection
  cases selection <;> rfl

end Selection

/-- One step in building a selection. -/
inductive BuildStep where
  /-- A built-in library is added. -/
  | add (kind : LibraryKind)
  /-- Built-in libraries are selected in place of those selected so far. -/
  | only (kinds : List LibraryKind)
  /-- A host library is added. -/
  | addHost (library : Library)

namespace BuildStep

/-- The built-in libraries that a step names. -/
def kinds : BuildStep → List LibraryKind
  | add kind => [kind]
  | only kinds => kinds
  | addHost _ => []

/-- The host library that a step adds. -/
def host? : BuildStep → Option Library
  | addHost library => some library
  | _ => none

/-- Whether a step drops the built-in libraries selected so far. -/
def startsOver : BuildStep → Bool
  | only _ => true
  | _ => false

/-- The built-in libraries that several steps name, in order and with repetitions. -/
def namedKinds (steps : List BuildStep) : List LibraryKind :=
  steps.flatMap kinds

/-- The host libraries that several steps add, in order. -/
def addedHosts (steps : List BuildStep) : List Library :=
  steps.filterMap host?

/-- The last step that starts over and those after it, or all steps if none starts over. -/
def sinceOnly (steps : List BuildStep) : List BuildStep :=
  steps.foldl (fun recent step => if step.startsOver then [step] else recent ++ [step]) []

/-- The first step that names a built-in library and those after it. -/
def sinceNamed (kind : LibraryKind) (steps : List BuildStep) : List BuildStep :=
  steps.dropWhile fun step => kind ∉ step.kinds

variable {kind : LibraryKind}

theorem namedKinds_append (first second : List BuildStep) :
    namedKinds (first ++ second) = namedKinds first ++ namedKinds second :=
  List.flatMap_append

theorem addedHosts_append (first second : List BuildStep) :
    addedHosts (first ++ second) = addedHosts first ++ addedHosts second :=
  List.filterMap_append

theorem sinceOnly_concat (steps : List BuildStep) (step : BuildStep) :
    sinceOnly (steps ++ [step]) =
      if step.startsOver then [step] else sinceOnly steps ++ [step] := by
  rw [sinceOnly, List.foldl_append]
  rfl

theorem sinceNamed_eq_nil_iff {steps : List BuildStep} :
    sinceNamed kind steps = [] ↔ kind ∉ namedKinds steps := by
  simp only [sinceNamed, List.dropWhile_eq_nil_iff, decide_eq_true_iff, namedKinds,
    List.mem_flatMap, not_exists, not_and]

theorem sinceNamed_append (kind : LibraryKind) (first second : List BuildStep) :
    sinceNamed kind (first ++ second) =
      if kind ∈ namedKinds first then sinceNamed kind first ++ second
      else sinceNamed kind second := by
  have known := @sinceNamed_eq_nil_iff kind first
  unfold sinceNamed at known ⊢
  rw [List.dropWhile_append]
  by_cases named : kind ∈ namedKinds first
  · rw [if_pos named, if_neg (mt List.isEmpty_iff.mp (mt known.mp (not_not.mpr named)))]
  · rw [if_neg named, if_pos (List.isEmpty_iff.mpr (known.mpr named))]

theorem addedHosts_sinceNamed_of_nil {steps : List BuildStep} (none : addedHosts steps = []) :
    addedHosts (sinceNamed kind steps) = [] := by
  have fewer : (addedHosts (sinceNamed kind steps)).Sublist (addedHosts steps) :=
    (List.dropWhile_sublist _).filterMap _
  rw [none] at fewer
  exact List.sublist_nil.mp fewer

end BuildStep

/-- An element at the end is kept where it is the first of its kind. -/
theorem eraseDups_concat {α : Type} [BEq α] [LawfulBEq α] (items : List α) (item : α) :
    (items ++ [item]).eraseDups = items.eraseDups ++ if item ∈ items then [] else [item] := by
  rw [List.eraseDups_append]
  by_cases old : item ∈ items <;> simp [old, List.removeAll, List.eraseDups_cons]

theorem nodup_eraseDups {α : Type} [BEq α] [LawfulBEq α] (items : List α) :
    items.eraseDups.Nodup := by
  induction items using List.reverseRecOn with
  | nil => exact List.nodup_nil
  | append_singleton items item ih =>
    rw [eraseDups_concat]
    split
    · rwa [List.append_nil]
    · next new =>
      rw [← List.concat_eq_append]
      exact List.Nodup.concat (mt List.mem_eraseDups.mp new) ih

theorem split_append {α : Type} {first second front back : List α} {item : α}
    (split : first ++ second = front ++ item :: back) :
    (∃ middle, first = front ++ item :: middle ∧ back = middle ++ second) ∨
      ∃ inner, second = inner ++ item :: back := by
  obtain ⟨inner, _, rest⟩ | ⟨middle, same, rest⟩ := List.append_eq_append_iff.mp split
  · exact .inr ⟨inner, rest⟩
  · obtain ⟨rfl, rest⟩ | ⟨middle, rfl, rest⟩ := List.cons_eq_append_iff.mp rest
    · exact .inr ⟨[], rest.symm⟩
    · exact .inl ⟨middle, same, (List.cons.inj rest).2⟩

namespace Bootstrap

open BuildStep

variable {bootstrap : Bootstrap} {steps : List BuildStep} {kind : LibraryKind}

/-- The kinds of the selected built-in libraries, in order. -/
def kinds (bootstrap : Bootstrap) : List LibraryKind :=
  bootstrap.selections.filterMap Selection.kind?

/-- The selected host libraries, in order. -/
def hosts (bootstrap : Bootstrap) : List Library :=
  bootstrap.selections.filterMap Selection.host?

/-- Takes one step. -/
def step (bootstrap : Bootstrap) : BuildStep → Bootstrap
  | .add kind => bootstrap.add kind
  | .only kinds => bootstrap.only kinds
  | .addHost library => bootstrap.addHost library

/-- Takes several steps, one after another. -/
def build (bootstrap : Bootstrap) (steps : List BuildStep) : Bootstrap :=
  steps.foldl step bootstrap

theorem build_concat (bootstrap : Bootstrap) (steps : List BuildStep) (last : BuildStep) :
    bootstrap.build (steps ++ [last]) = (bootstrap.build steps).step last := by
  rw [build, List.foldl_append]
  rfl

theorem mem_kinds_iff : kind ∈ bootstrap.kinds ↔ Selection.builtin kind ∈ bootstrap.selections := by
  rw [kinds, List.mem_filterMap]
  constructor
  · rintro ⟨selection, member, same⟩
    cases selection with
    | builtin other =>
      cases same
      exact member
    | host => cases same
  · intro member
    exact ⟨_, member, rfl⟩

theorem includes_iff : bootstrap.includes kind = true ↔ kind ∈ bootstrap.kinds := by
  rw [includes, List.any_eq_true, mem_kinds_iff]
  constructor
  · rintro ⟨selection, member, same⟩
    cases selection with
    | builtin other =>
      obtain rfl : other = kind := by simpa [Selection.isBuiltin] using same
      exact member
    | host => cases same
  · intro member
    exact ⟨_, member, by simp [Selection.isBuiltin]⟩

theorem hosts_sublist_libraries (bootstrap : Bootstrap) :
    bootstrap.hosts.Sublist bootstrap.libraries := by
  unfold hosts libraries
  induction bootstrap.selections with
  | nil => exact .slnil
  | cons selection rest ih =>
    cases selection with
    | builtin kind => exact .cons _ ih
    | host library => exact .cons_cons _ ih

/-- Adding a built-in library selects it last, or changes nothing where it is selected already. -/
theorem selections_add (bootstrap : Bootstrap) (kind : LibraryKind) :
    (bootstrap.add kind).selections =
      bootstrap.selections ++ (if kind ∈ bootstrap.kinds then [] else [kind]).map .builtin := by
  unfold add
  by_cases old : kind ∈ bootstrap.kinds
  · rw [if_pos (includes_iff.mpr old), if_pos old, List.map_nil, List.append_nil]
  · rw [if_neg (mt includes_iff.mp old), if_neg old, List.map_singleton]

/-- So the kinds stay in the order in which they were first named. -/
theorem kinds_add {named : List LibraryKind} (ordered : bootstrap.kinds = named.eraseDups)
    (kind : LibraryKind) : (bootstrap.add kind).kinds = (named ++ [kind]).eraseDups := by
  rw [kinds, selections_add, List.filterMap_append, Selection.filterMap_kind?_builtin, ← kinds,
    eraseDups_concat, ordered]
  simp only [List.mem_eraseDups]

/-- Several built-in libraries are added behind all that is selected. -/
theorem selections_foldl_add {named : List LibraryKind} (ordered : bootstrap.kinds = named.eraseDups)
    (kinds : List LibraryKind) :
    ∃ new : List LibraryKind,
      (kinds.foldl add bootstrap).selections = bootstrap.selections ++ new.map .builtin ∧
      (kinds.foldl add bootstrap).kinds = (named ++ kinds).eraseDups := by
  induction kinds generalizing bootstrap named with
  | nil => exact ⟨[], by simp, by simpa using ordered⟩
  | cons kind kinds ih =>
    obtain ⟨new, selections, last⟩ := ih (kinds_add ordered kind)
    refine ⟨(if kind ∈ bootstrap.kinds then [] else [kind]) ++ new, ?_, ?_⟩
    · rw [List.foldl_cons, selections, selections_add, List.map_append, List.append_assoc]
    · rw [List.foldl_cons, last, List.append_assoc, List.singleton_append]

/-- What the steps so far say about the selection. -/
structure Built (steps : List BuildStep) (built : Bootstrap) : Prop where
  kinds : built.kinds = (namedKinds (sinceOnly steps)).eraseDups
  hosts : built.hosts = addedHosts steps
  behind : ∀ front kind back, built.selections = front ++ .builtin kind :: back →
    back.filterMap Selection.host? = addedHosts (sinceNamed kind (sinceOnly steps))

namespace Built

variable {built next : Bootstrap}

theorem empty : Built [] .empty where
  kinds := rfl
  hosts := rfl
  behind front kind back split := by
    have filled := congrArg List.length split
    rw [List.length_append, List.length_cons] at filled
    cases filled

/-- A step that does not start over selects more behind what is selected. A built-in library that is
selected anew has not been named before. -/
theorem more {step : BuildStep} {new : List Selection} (before : Built steps built)
    (goes : step.startsOver = false) (selections : next.selections = built.selections ++ new)
    (kinds : next.kinds = (namedKinds (sinceOnly steps) ++ step.kinds).eraseDups)
    (hosts : new.filterMap Selection.host? = addedHosts [step])
    (fresh : ∀ kind, Selection.builtin kind ∈ new →
      kind ∉ namedKinds (sinceOnly steps) ∧ step = .add kind) :
    Built (steps ++ [step]) next where
  kinds := by
    rw [kinds, sinceOnly_concat, goes, if_neg Bool.false_ne_true, namedKinds_append]
    simp only [namedKinds, List.flatMap_singleton]
  hosts := by
    rw [Bootstrap.hosts, selections, List.filterMap_append, hosts, addedHosts_append, ← before.hosts,
      Bootstrap.hosts]
  behind front kind back split := by
    rw [selections] at split
    rw [sinceOnly_concat, goes, if_neg Bool.false_ne_true, sinceNamed_append]
    obtain ⟨middle, old, rfl⟩ | ⟨inner, rfl⟩ := split_append split
    · have named : kind ∈ namedKinds (sinceOnly steps) := by
        rw [← List.mem_eraseDups, ← before.kinds, mem_kinds_iff, old]
        exact List.mem_append_right _ List.mem_cons_self
      rw [if_pos named, addedHosts_append, List.filterMap_append, hosts,
        before.behind front kind middle old]
    · obtain ⟨unnamed, rfl⟩ := fresh kind (List.mem_append_right _ List.mem_cons_self)
      have noHosts : (inner ++ .builtin kind :: back).filterMap Selection.host? = [] := hosts
      rw [List.filterMap_append, List.append_eq_nil_iff] at noHosts
      rw [if_neg unnamed, addedHosts_sinceNamed_of_nil rfl]
      exact noHosts.2

theorem add (before : Built steps built) (kind : LibraryKind) :
    Built (steps ++ [.add kind]) (built.add kind) := by
  refine before.more rfl (selections_add built kind) (kinds_add before.kinds kind)
    (Selection.filterMap_host?_builtin _) fun other selected => ?_
  obtain ⟨_, member, same⟩ := List.mem_map.mp selected
  cases same
  split at member
  · cases member
  · next unselected =>
    obtain rfl := List.mem_singleton.mp member
    rw [before.kinds, List.mem_eraseDups] at unselected
    exact ⟨unselected, rfl⟩

theorem addHost (before : Built steps built) (library : Library) :
    Built (steps ++ [.addHost library]) (built.addHost library) := by
  refine before.more rfl rfl ?_ rfl fun kind selected => ?_
  · have same : (built.addHost library).kinds = built.kinds ++ [] := List.filterMap_append
    rw [same, List.append_nil, before.kinds, BuildStep.kinds, List.append_nil]
  · cases List.mem_singleton.mp selected

/-- Starting over keeps the host libraries, in front of all built-in ones. -/
theorem only (before : Built steps built) (kinds : List LibraryKind) :
    Built (steps ++ [.only kinds]) (built.only kinds) := by
  have start : (⟨built.selections.filter (·.isHost)⟩ : Bootstrap).kinds = [].eraseDups :=
    Selection.filterMap_kind?_hosts _
  obtain ⟨new, selections, ordered⟩ : ∃ new : List LibraryKind,
      (built.only kinds).selections = built.selections.filter (·.isHost) ++ new.map Selection.builtin ∧
      (built.only kinds).kinds = kinds.eraseDups :=
    selections_foldl_add start kinds
  have recent : sinceOnly (steps ++ [.only kinds]) = [.only kinds] := sinceOnly_concat _ _
  constructor
  · rw [recent, ordered, namedKinds, List.flatMap_singleton, BuildStep.kinds]
  · rw [Bootstrap.hosts, selections, List.filterMap_append, Selection.filterMap_host?_hosts,
      Selection.filterMap_host?_builtin, addedHosts_append, ← before.hosts, Bootstrap.hosts]
    rfl
  · intro front kind back split
    rw [selections] at split
    rw [recent, addedHosts_sinceNamed_of_nil rfl]
    obtain ⟨middle, old, _⟩ | ⟨inner, added⟩ := split_append split
    · have member : Selection.builtin kind ∈ built.selections.filter (·.isHost) := by
        rw [old]
        exact List.mem_append_right _ List.mem_cons_self
      cases (List.mem_filter.mp member).2
    · have noHosts := Selection.filterMap_host?_builtin new
      rw [added, List.filterMap_append, List.append_eq_nil_iff] at noHosts
      exact noHosts.2

theorem step (before : Built steps built) (step : BuildStep) :
    Built (steps ++ [step]) (built.step step) := by
  cases step with
  | add kind => exact before.add kind
  | only kinds => exact before.only kinds
  | addHost library => exact before.addHost library

theorem build (steps : List BuildStep) : Built steps (Bootstrap.empty.build steps) := by
  induction steps using List.reverseRecOn with
  | nil => exact empty
  | append_singleton steps last ih =>
    rw [build_concat]
    exact ih.step last

end Built

/-- The steps tell what is selected. No built-in library is selected twice; one is selected just when it
was named since the last replacement, and they stand in the order in which that was first done. The
host libraries are those that were added, each time one was. A built-in library goes before the host
libraries that were added after it was first named, and before no others. Starting from all built-in
libraries is a replacement at the start. -/
theorem build_history (steps : List BuildStep) :
    let built := Bootstrap.empty.build steps
    let recent := sinceOnly steps
    built.kinds.Nodup ∧
    (∀ kind, built.includes kind = true ↔ kind ∈ namedKinds recent) ∧
    built.kinds = (namedKinds recent).eraseDups ∧
    built.hosts = addedHosts steps ∧ (addedHosts steps).Sublist built.libraries ∧
    (∀ front kind back, built.selections = front ++ .builtin kind :: back →
      back.filterMap Selection.host? = addedHosts (sinceNamed kind recent)) ∧
    Bootstrap.standard.build steps = Bootstrap.empty.build (.only LibraryKind.all :: steps) := by
  intro built recent
  have history : Built steps built := .build steps
  refine ⟨?_, fun kind => ?_, history.kinds, history.hosts, ?_, history.behind, rfl⟩
  · rw [history.kinds]
    exact nodup_eraseDups _
  · rw [includes_iff, history.kinds, List.mem_eraseDups]
  · rw [← history.hosts]
    exact built.hosts_sublist_libraries

/-- Two host libraries bear the name of a built-in one. The replacement drops what was named before it,
names one library twice, and leaves the first of them in front; the second stands behind the library of
its name. -/
theorem build_history_mixed :
    let bool : Library := ⟨"bool", [⟨"maybe", .null⟩]⟩
    let steps : List BuildStep := [.addHost bool, .add .condition, .only [.symbol, .boolean, .symbol],
      .addHost bool, .add .boolean, .add .character]
    let built := Bootstrap.empty.build steps
    built.libraryNames = ["bool", "symbol", "bool", "bool", "char"] ∧
      built.kinds = [.symbol, .boolean, .character] ∧ built.includes .condition = false ∧
      built.hosts = [bool, bool] ∧
      [Selection.host bool, .builtin .character].filterMap Selection.host? =
        addedHosts (sinceNamed .boolean (sinceOnly steps)) := by
  intro bool steps built
  obtain ⟨_, included, ordered, hosts, _, behind, _⟩ := build_history steps
  have split : built.selections = [.host bool, .builtin .symbol] ++
      .builtin .boolean :: [.host bool, .builtin .character] := by cbv
  refine ⟨by decide +kernel, ordered, ?_, hosts, behind _ _ _ split⟩
  exact Bool.eq_false_iff.mpr (mt (included .condition).mp (by decide))

end Bootstrap

end SchemeBase
