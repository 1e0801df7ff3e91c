import SchemeBase.Bootstrap
import SchemeBase.Proofs.Value.Eqv

/-! # What staging decides

The bindings of a selection are offers, in selection order. Staging compares every offer with the
first one of its name and with no other. It still decides whether all offers of one name agree,
since equivalence of values is symmetric and transitive. When it refuses a selection, the error
belongs to the first library with a fault, and there an invalid name goes before a collision.
-/

namespace SchemeBase

/-- A binding with the name of the library that offers it. -/
structure Offer where
  binding : Binding
  origin : String

/-- The offers of one library, in binding order. -/
def Library.offers (library : Library) : List Offer :=
  library.bindings.map (⟨·, library.name⟩)

/-- The offers of a selection, in selection order. -/
def offersOf (libraries : List Library) : List Offer :=
  libraries.flatMap Library.offers

/-- The first offer of a name. -/
def firstOffer? (offers : List Offer) (name : String) : Option Offer :=
  offers.find? (·.binding.name == name)

/-- A name that a library may bind. -/
def Binding.Valid (binding : Binding) : Prop :=
  ∃ length, Text.checkName binding.name = .ok length

theorem Binding.not_valid_iff {binding : Binding} :
    ¬ binding.Valid ↔ ∃ cause, Text.checkName binding.name = .error cause := by
  unfold Binding.Valid
  cases Text.checkName binding.name <;> simp

/-- The first offer of the same name has a value that is not equivalent. -/
def Binding.Disputed (offers : List Offer) (binding : Binding) : Prop :=
  ∃ first, firstOffer? offers binding.name = some first ∧
    first.binding.value.eqv binding.value = false

/-- Any two offers of one name have equivalent values. -/
def Agree (offers : List Offer) : Prop :=
  ∀ a ∈ offers, ∀ b ∈ offers, a.binding.name = b.binding.name →
    a.binding.value.eqv b.binding.value = true

variable {offers done rest : List Offer} {first : Offer} {binding : Binding} {name origin : String}

theorem firstOffer?_eq_some (found : firstOffer? offers name = some first) :
    first ∈ offers ∧ first.binding.name = name :=
  ⟨List.mem_of_find?_eq_some found, by simpa using List.find?_some found⟩

theorem exists_firstOffer? {offer : Offer} (member : offer ∈ offers) :
    ∃ first, firstOffer? offers offer.binding.name = some first := by
  apply Option.isSome_iff_exists.mp
  simp only [firstOffer?, List.find?_isSome, beq_iff_eq]
  exact ⟨offer, member, rfl⟩

/-- Later offers do not change which one is first. -/
theorem firstOffer?_append (found : firstOffer? done name = some first) :
    firstOffer? (done ++ rest) name = some first := by
  unfold firstOffer? at found ⊢
  rw [List.find?_append, found, Option.some_or]

theorem firstOffer?_append_cons {offer : Offer}
    (unseen : firstOffer? done offer.binding.name = none) :
    firstOffer? (done ++ offer :: rest) offer.binding.name = some offer := by
  unfold firstOffer? at unseen ⊢
  rw [List.find?_append, unseen, Option.none_or, List.find?_cons, beq_self_eq_true]

theorem firstOffer?_concat (done : List Offer) (offer : Offer) (name : String) :
    firstOffer? (done ++ [offer]) name =
      (firstOffer? done name).or (if offer.binding.name = name then some offer else none) := by
  unfold firstOffer?
  rw [List.find?_append]
  by_cases same : offer.binding.name = name <;> simp [same]

/-- Agreement with the first offer of every name is agreement among all. -/
theorem agree_iff : Agree offers ↔ ∀ offer ∈ offers, ¬ offer.binding.Disputed offers := by
  constructor
  · rintro agree offer member ⟨first, found, differs⟩
    obtain ⟨firstMember, same⟩ := firstOffer?_eq_some found
    rw [agree first firstMember offer member same] at differs
    cases differs
  · intro undisputed a memberA b memberB same
    obtain ⟨first, found⟩ := exists_firstOffer? memberA
    have withFirst (offer : Offer) (member : offer ∈ offers)
        (named : a.binding.name = offer.binding.name) :
        first.binding.value.eqv offer.binding.value = true := by
      cases same : first.binding.value.eqv offer.binding.value with
      | true => rfl
      | false => exact absurd ⟨first, named ▸ found, same⟩ (undisputed offer member)
    have left := withFirst a memberA rfl
    rw [Value.eqv_comm] at left
    exact Value.eqv_trans left (withFirst b memberB same)

/-! ## The staging and the offers it has seen -/

namespace Staging

variable {staging : Staging}

/-- The staged binding of a name, with the library that bound it first. -/
def first? (staging : Staging) (name : String) : Option Offer := do
  let (place, origin) ← staging.seen[name]?
  let binding ← staging.bindings[place]?
  return ⟨binding, origin⟩

/-- The staging has the first of the offers of every name. -/
def Holds (staging : Staging) (offers : List Offer) : Prop :=
  ∀ name, staging.first? name = firstOffer? offers name

theorem holds_empty : empty.Holds [] := by
  intro name
  simp [empty, first?, firstOffer?]

theorem first?_eq_none_iff : staging.first? name = none ↔ staging.seen[name]? = none := by
  unfold first?
  cases known : staging.seen[name]? with
  | none => simp
  | some entry =>
    obtain ⟨place, origin⟩ := entry
    simp [Array.getElem?_eq_getElem (staging.place_lt known)]

theorem first?_of_seen {place : Nat} (known : staging.seen[name]? = some (place, origin))
    (bound : place < staging.bindings.size) :
    staging.first? name = some ⟨staging.bindings[place], origin⟩ := by
  simp [first?, known, Array.getElem?_eq_getElem bound]

theorem first?_push (unseen : staging.seen[binding.name]? = none) (name : String) :
    (staging.push origin binding unseen).first? name =
      if name = binding.name then some ⟨binding, origin⟩ else staging.first? name := by
  simp only [first?, push, Std.TreeMap.getElem?_insert]
  by_cases same : name = binding.name
  · simp [same]
  · cases known : staging.seen[name]? with
    | none => simp [same, Ne.symm same]
    | some entry =>
      obtain ⟨place, owner⟩ := entry
      have bound := staging.place_lt known
      simp [same, Ne.symm same, Array.getElem?_push, Nat.ne_of_lt bound]

/-- One offer is staged, or it differs from the first offer of its name. -/
theorem Holds.stageBinding (holds : staging.Holds done) (origin : String) (binding : Binding)
    (rest : List Offer) :
    (¬ binding.Disputed (done ++ ⟨binding, origin⟩ :: rest) ∧
      ∃ next, Bootstrap.stageBinding origin staging binding = .ok next ∧
        next.Holds (done ++ [⟨binding, origin⟩])) ∨
    ∃ first, firstOffer? (done ++ ⟨binding, origin⟩ :: rest) binding.name = some first ∧
      first.binding.value.eqv binding.value = false ∧
      Bootstrap.stageBinding origin staging binding =
        .error (.collision binding.name first.origin origin) := by
  unfold Bootstrap.stageBinding
  split
  · next place owner known =>
    have bound := staging.place_lt known
    have found : firstOffer? done binding.name = some ⟨staging.bindings[place], owner⟩ := by
      rw [← holds, first?_of_seen known bound]
    cases agrees : staging.bindings[place].value.eqv binding.value with
    | true =>
      refine .inl ⟨?_, staging, by simp [agrees], fun name => ?_⟩
      · rintro ⟨first, again, differs⟩
        cases (firstOffer?_append found).symm.trans again
        cases agrees.symm.trans differs
      · rw [holds name, firstOffer?_concat]
        split
        · next same => rw [← same, found, Option.some_or]
        · rw [Option.or_none]
    | false => exact .inr ⟨_, firstOffer?_append found, agrees, by simp [agrees]⟩
  · next known =>
    have unseen : firstOffer? done binding.name = none := by
      rw [← holds, first?_eq_none_iff, known]
    refine .inl ⟨?_, _, rfl, fun name => ?_⟩
    · rintro ⟨first, found, differs⟩
      cases (firstOffer?_append_cons unseen).symm.trans found
      rw [Value.eqv_refl] at differs
      cases differs
    · rw [first?_push known, holds name, firstOffer?_concat]
      by_cases same : binding.name = name
      · rw [if_pos same.symm, if_pos same, ← same, unseen, Option.none_or]
      · rw [if_neg (Ne.symm same), if_neg same, Option.or_none]

/-- The loop over the bindings of a library, seen within all offers of the selection: no binding is
disputed, or the loop ends at the first one that is. -/
theorem Holds.stageBindings (holds : staging.Holds done) (origin : String) (bindings : List Binding)
    {all : List Offer} (whole : all = done ++ (bindings.map (⟨·, origin⟩) ++ rest)) :
    ((∀ binding ∈ bindings, ¬ binding.Disputed all) ∧
      ∃ next, bindings.foldlM (Bootstrap.stageBinding origin) staging = .ok next ∧
        next.Holds (done ++ bindings.map (⟨·, origin⟩))) ∨
    ∃ before binding after first, bindings = before ++ binding :: after ∧
      (∀ other ∈ before, ¬ other.Disputed all) ∧
      firstOffer? all binding.name = some first ∧
      first.binding.value.eqv binding.value = false ∧
      bindings.foldlM (Bootstrap.stageBinding origin) staging =
        .error (.collision binding.name first.origin origin) := by
  induction bindings generalizing staging done with
  | nil => exact .inl ⟨List.forall_mem_nil _, staging, rfl, by simpa using holds⟩
  | cons binding bindings ih =>
    rw [List.map_cons, List.cons_append] at whole
    obtain ⟨undisputed, next, run, nextHolds⟩ | ⟨first, found, differs, run⟩ :=
      holds.stageBinding origin binding (bindings.map (⟨·, origin⟩) ++ rest)
    · rw [← whole] at undisputed
      have step : (binding :: bindings).foldlM (Bootstrap.stageBinding origin) staging =
          bindings.foldlM (Bootstrap.stageBinding origin) next := by
        rw [List.foldlM_cons, run]
        rfl
      rw [step]
      obtain ⟨agreed, last, loop, lastHolds⟩ |
          ⟨before, refused, after, first, split, agreed, found⟩ :=
        ih nextHolds (by rw [whole, List.append_assoc, List.singleton_append])
      · refine .inl ⟨List.forall_mem_cons.mpr ⟨undisputed, agreed⟩, last, loop, ?_⟩
        simpa using lastHolds
      · exact .inr ⟨binding :: before, refused, after, first, by rw [split, List.cons_append],
          List.forall_mem_cons.mpr ⟨undisputed, agreed⟩, found⟩
    · rw [← whole] at found
      refine .inr ⟨[], binding, bindings, first, rfl, List.forall_mem_nil _, found, differs, ?_⟩
      rw [List.foldlM_cons, run]
      rfl

end Staging

/-! ## The verdict on a selection -/

namespace Library

/-- Every name of the library is valid, or the error is about the first one that is not. -/
theorem checkNames_cases (library : Library) :
    ((∀ binding ∈ library.bindings, binding.Valid) ∧ library.checkNames = .ok ()) ∨
    ∃ before binding after cause, library.bindings = before ++ binding :: after ∧
      (∀ other ∈ before, other.Valid) ∧ Text.checkName binding.name = .error cause ∧
      library.checkNames = .error (.invalidName library.name binding.name cause) := by
  unfold checkNames
  cases fault : library.invalidName? with
  | none =>
    refine .inl ⟨fun binding member => ?_, rfl⟩
    have checked := List.findSome?_eq_none_iff.mp fault binding member
    split at checked
    · next length valid => exact ⟨length, valid⟩
    · cases checked
  | some pair =>
    obtain ⟨before, binding, after, split, found, earlier⟩ := List.findSome?_eq_some_iff.mp fault
    have valid (other : Binding) (member : other ∈ before) : other.Valid := by
      have checked := earlier other member
      split at checked
      · next length valid => exact ⟨length, valid⟩
      · cases checked
    split at found
    · cases found
    · next cause invalid =>
      cases found
      exact .inr ⟨before, binding, after, cause, split, valid, invalid, rfl⟩

/-- All names are valid, and no binding differs from the first offer of its name. -/
structure Sound (all : List Offer) (library : Library) : Prop where
  valid : ∀ binding ∈ library.bindings, binding.Valid
  undisputed : ∀ binding ∈ library.bindings, ¬ binding.Disputed all

/-- The error that a library with a fault is refused with. Its first invalid name goes before all
collisions; without one, the error is about its first disputed binding. -/
inductive Refused (all : List Offer) (library : Library) : BootstrapError → Prop
  | invalidName {before after : List Binding} {binding : Binding} {cause : TextError}
      (split : library.bindings = before ++ binding :: after)
      (valid : ∀ other ∈ before, other.Valid)
      (invalid : Text.checkName binding.name = .error cause) :
      Refused all library (.install (.invalidName library.name binding.name cause))
  | collision {before after : List Binding} {binding : Binding} {first : Offer}
      (valid : ∀ other ∈ library.bindings, other.Valid)
      (split : library.bindings = before ++ binding :: after)
      (undisputed : ∀ other ∈ before, ¬ other.Disputed all)
      (found : firstOffer? all binding.name = some first)
      (differs : first.binding.value.eqv binding.value = false) :
      Refused all library (.collision binding.name first.origin library.name)

theorem Refused.not_sound {all : List Offer} {library : Library} {error : BootstrapError}
    (refused : library.Refused all error) : ¬ library.Sound all := by
  intro sound
  cases refused with
  | @invalidName before after binding _ split _ invalid =>
    have member : binding ∈ library.bindings := by rw [split]; simp
    obtain ⟨length, valid⟩ := sound.valid binding member
    cases valid.symm.trans invalid
  | @collision before after binding first _ split _ found differs =>
    have member : binding ∈ library.bindings := by rw [split]; simp
    exact sound.undisputed binding member ⟨first, found, differs⟩

end Library

/-- A library is staged if it is sound among all offers, and refused by its first fault if not. -/
theorem Staging.Holds.stageLibrary {staging : Staging} (holds : staging.Holds done)
    (library : Library) {all : List Offer} (whole : all = done ++ (library.offers ++ rest)) :
    (library.Sound all ∧ ∃ next, Bootstrap.stageLibrary staging library = .ok next ∧
      next.Holds (done ++ library.offers)) ∨
    ∃ error, library.Refused all error ∧ Bootstrap.stageLibrary staging library = .error error := by
  unfold Bootstrap.stageLibrary
  obtain ⟨valid, checked⟩ | ⟨before, binding, after, cause, split, valid, invalid, checked⟩ :=
    library.checkNames_cases
  · rw [checked]
    obtain ⟨undisputed, next, run, nextHolds⟩ |
        ⟨before, binding, after, first, split, undisputed, found, differs, run⟩ :=
      holds.stageBindings library.name library.bindings whole
    · exact .inl ⟨⟨valid, undisputed⟩, next, run, nextHolds⟩
    · exact .inr ⟨_, .collision valid split undisputed found differs, run⟩
  · rw [checked]
    exact .inr ⟨_, .invalidName split valid invalid, rfl⟩

namespace Bootstrap

/-- The error that a selection is refused with: the one of its first library with a fault. -/
def Refused (libraries : List Library) (error : BootstrapError) : Prop :=
  ∃ before library after, libraries = before ++ library :: after ∧
    (∀ earlier ∈ before, earlier.Sound (offersOf libraries)) ∧
    library.Refused (offersOf libraries) error

private theorem foldlM_stageLibrary {all : List Offer} {staging : Staging}
    (holds : staging.Holds done) (libraries : List Library)
    (whole : all = done ++ offersOf libraries) :
    ((∀ library ∈ libraries, library.Sound all) ∧
      ∃ last, libraries.foldlM stageLibrary staging = .ok last ∧ last.Holds all) ∨
    ∃ before library after error, libraries = before ++ library :: after ∧
      (∀ earlier ∈ before, earlier.Sound all) ∧ library.Refused all error ∧
      libraries.foldlM stageLibrary staging = .error error := by
  induction libraries generalizing staging done with
  | nil =>
    rw [offersOf, List.flatMap_nil, List.append_nil] at whole
    exact .inl ⟨List.forall_mem_nil _, staging, rfl, whole ▸ holds⟩
  | cons library libraries ih =>
    rw [offersOf, List.flatMap_cons] at whole
    obtain ⟨sound, next, run, nextHolds⟩ | ⟨error, refused, run⟩ :=
      holds.stageLibrary library whole
    · have step : (library :: libraries).foldlM stageLibrary staging =
          libraries.foldlM stageLibrary next := by
        rw [List.foldlM_cons, run]
        rfl
      rw [step]
      obtain ⟨allSound, last, loop, lastHolds⟩ |
          ⟨before, refused, after, error, split, sounds, found⟩ :=
        ih nextHolds (by rw [whole, List.append_assoc, offersOf])
      · exact .inl ⟨List.forall_mem_cons.mpr ⟨sound, allSound⟩, last, loop, lastHolds⟩
      · exact .inr ⟨library :: before, refused, after, error, by rw [split, List.cons_append],
          List.forall_mem_cons.mpr ⟨sound, sounds⟩, found⟩
    · refine .inr ⟨[], library, libraries, error, rfl, List.forall_mem_nil _, refused, ?_⟩
      rw [List.foldlM_cons, run]
      rfl

/-- Staging succeeds with the first offer of every name if all libraries are sound, and ends with
the error of the first one that is not. -/
theorem stage_cases (libraries : List Library) :
    ((∀ library ∈ libraries, library.Sound (offersOf libraries)) ∧
      ∃ staging, stage libraries = .ok staging ∧ staging.Holds (offersOf libraries)) ∨
    ∃ error, Refused libraries error ∧ stage libraries = .error error := by
  obtain staged | ⟨before, library, after, error, split, sounds, refused, run⟩ :=
    foldlM_stageLibrary Staging.holds_empty libraries (List.nil_append _).symm
  · exact .inl staged
  · exact .inr ⟨error, ⟨before, library, after, split, sounds, refused⟩, run⟩

/-- All libraries are sound just when all names are valid and all offers of one name agree. -/
theorem forall_sound_iff (libraries : List Library) :
    (∀ library ∈ libraries, library.Sound (offersOf libraries)) ↔
      (∀ offer ∈ offersOf libraries, offer.binding.Valid) ∧ Agree (offersOf libraries) := by
  have offered (property : Binding → Prop) :
      (∀ offer ∈ offersOf libraries, property offer.binding) ↔
        ∀ library ∈ libraries, ∀ binding ∈ library.bindings, property binding := by
    simp only [offersOf, Library.offers, List.mem_flatMap, List.mem_map]
    constructor
    · intro each library member binding bound
      exact each ⟨binding, library.name⟩ ⟨library, member, binding, bound, rfl⟩
    · rintro each _ ⟨library, member, binding, bound, rfl⟩
      exact each library member binding bound
  rw [agree_iff, offered Binding.Valid,
    offered fun binding => ¬ binding.Disputed (offersOf libraries)]
  constructor
  · intro sound
    exact ⟨fun library member => (sound library member).valid,
      fun library member => (sound library member).undisputed⟩
  · rintro ⟨valid, undisputed⟩ library member
    exact ⟨valid library member, undisputed library member⟩

/-- A selection with a fault has an invalid name or two offers of a name that disagree. -/
theorem not_forall_sound_iff (libraries : List Library) :
    (¬ ∀ library ∈ libraries, library.Sound (offersOf libraries)) ↔
      (∃ offer ∈ offersOf libraries, ∃ cause,
        Text.checkName offer.binding.name = .error cause) ∨
      ∃ a ∈ offersOf libraries, ∃ b ∈ offersOf libraries, a.binding.name = b.binding.name ∧
        a.binding.value.eqv b.binding.value = false := by
  rw [forall_sound_iff, Classical.not_and_iff_not_or_not]
  apply or_congr
  · simp only [Classical.not_forall, exists_prop, Binding.not_valid_iff]
  · simp only [Agree, Classical.not_forall, exists_prop, Bool.not_eq_true]

end Bootstrap

end SchemeBase
