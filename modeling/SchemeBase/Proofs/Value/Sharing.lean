import SchemeBase.Proofs.Store.Reachable

/-! # Shared allocations

Values that come from one store may share parts: a part is known by the number of its allocation,
and the same part may occur in many places. Every value is made by a factory from values that were
made before, and a factory only ever takes numbers that no value has. So wherever one number occurs,
it stands for the same contents.
-/

namespace SchemeBase

namespace Value

/-- The number of the allocation of a value, if it has one. -/
def identity? : Value → Option Identity
  | string id _ => some id
  | pair id _ _ => some id
  | lambda id _ => some id
  | condition id _ _ => some id
  | _ => none

/-- The values directly inside a value. -/
def fields : Value → List Value
  | pair _ car cdr => [car, cdr]
  | lambda _ code => [code.body]
  | condition _ _ irritants => irritants
  | _ => []

/-- A value is another one, or lies inside it at any depth. -/
inductive Within (part : Value) : Value → Prop
  | here : Within part part
  | field {value inner : Value} (member : inner ∈ value.fields) (deep : Within part inner) :
      Within part value

/-- A value occurs in one of several values. -/
def Occurs (values : List Value) (part : Value) : Prop :=
  ∃ value ∈ values, part.Within value

/-- One number stands for one value wherever it occurs, and the numbers that are free do not
occur. -/
structure Sharing (values : List Value) (free : Identity → Prop) : Prop where
  coherent : ∀ one other, Occurs values one → Occurs values other → ∀ id : Identity,
    one.identity? = some id → other.identity? = some id → one = other
  unused : ∀ id, free id → ∀ part, Occurs values part → part.identity? ≠ some id

variable {value part whole : Value} {values others : List Value} {free less : Identity → Prop}

theorem fields_eq_nil (plain : value.identity? = none) : value.fields = [] := by
  cases value <;> simp [identity?, fields] at plain ⊢

theorem Within.trans (inner : part.Within value) (outer : value.Within whole) :
    part.Within whole := by
  induction outer with
  | here => exact inner
  | field member _ ih => exact .field member ih

theorem occurs_of_mem (member : value ∈ values) : Occurs values value :=
  ⟨value, member, .here⟩

theorem Occurs.field (occurs : Occurs values value) (member : part ∈ value.fields) :
    Occurs values part := by
  obtain ⟨whole, made, deep⟩ := occurs
  exact ⟨whole, made, Within.trans (.field member .here) deep⟩

/-- What occurs in values that occur in others occurs in the others. -/
theorem Occurs.mono (sub : ∀ value ∈ values, Occurs others value) (occurs : Occurs values part) :
    Occurs others part := by
  obtain ⟨value, member, inner⟩ := occurs
  obtain ⟨whole, made, outer⟩ := sub value member
  exact ⟨whole, made, inner.trans outer⟩

/-- A value with old fields adds only itself. -/
theorem occurs_cons (old : ∀ field ∈ value.fields, field ∈ values)
    (occurs : Occurs (value :: values) part) : part = value ∨ Occurs values part := by
  obtain ⟨whole, member, inner⟩ := occurs
  rcases List.mem_cons.mp member with rfl | member
  · cases inner with
    | here => exact .inl rfl
    | field inside deep => exact .inr ⟨_, old _ inside, deep⟩
  · exact .inr ⟨whole, member, inner⟩

namespace Sharing

theorem nil (free : Identity → Prop) : Sharing [] free where
  coherent _ _ left := by obtain ⟨_, member, _⟩ := left; cases member
  unused _ _ _ occurs := by obtain ⟨_, member, _⟩ := occurs; cases member

theorem mono (sharing : Sharing others free) (sub : ∀ value ∈ values, Occurs others value)
    (fewer : ∀ id, less id → free id) : Sharing values less where
  coherent one other left right := sharing.coherent one other (left.mono sub) (right.mono sub)
  unused id isFree part occurs := sharing.unused id (fewer id isFree) part (occurs.mono sub)

/-- A value with old fields may take a free number. -/
theorem cons (sharing : Sharing values free) (old : ∀ field ∈ value.fields, field ∈ values)
    (new : ∀ id, value.identity? = some id → free id) :
    Sharing (value :: values) fun id => free id ∧ value.identity? ≠ some id where
  coherent one other left right id oneId otherId := by
    rcases occurs_cons old left with rfl | before <;> rcases occurs_cons old right with rfl | after
    · rfl
    · exact absurd otherId (sharing.unused id (new id oneId) other after)
    · exact absurd oneId (sharing.unused id (new id otherId) one before)
    · exact sharing.coherent one other before after id oneId otherId
  unused id isFree part occurs := by
    rcases occurs_cons old occurs with rfl | before
    · exact isFree.2
    · exact sharing.unused id isFree.1 part before

/-- The pairs of a chain take consecutive numbers from `first` on. -/
theorem listFrom (sharing : Sharing values free) {tail : Value} (ends : tail ∈ values)
    (items : List Value) (made : ∀ item ∈ items, item ∈ values) (first : Nat)
    (new : ∀ id : Nat, first ≤ id → id < first + items.length → free id) :
    Sharing (listFrom first items tail :: values)
      fun id : Nat => free id ∧ (id < first ∨ first + items.length ≤ id) := by
  induction items generalizing first with
  | nil => exact sharing.mono (List.forall_mem_cons.mpr
      ⟨occurs_of_mem ends, fun _ => occurs_of_mem⟩) fun _ => And.left
  | cons item items ih =>
    obtain ⟨itemMade, itemsMade⟩ := List.forall_mem_cons.mp made
    rw [List.length_cons] at new ⊢
    have rest := ih itemsMade (first + 1) fun id lower upper => new id (by omega) (by omega)
    rw [listFrom_cons]
    generalize Value.listFrom (first + 1) items tail = cdr at rest ⊢
    have old (field : Value) (member : field ∈ (pair first item cdr).fields) :
        field ∈ cdr :: values := by
      rcases List.mem_cons.mp member with rfl | member
      · exact List.mem_cons_of_mem _ itemMade
      · exact List.mem_singleton.mp member ▸ List.mem_cons_self
    have whole := rest.cons old fun id taken => by
      cases taken
      exact ⟨new first (by omega) (by omega), .inl (by omega)⟩
    -- The rest of the chain lies inside the chain and need not be listed.
    refine whole.mono (fun value member => ?_) fun id isFree => ?_
    · rcases List.mem_cons.mp member with rfl | member
      · exact occurs_of_mem List.mem_cons_self
      · exact occurs_of_mem (List.mem_cons_of_mem _ (List.mem_cons_of_mem _ member))
    · refine ⟨⟨isFree.1, by omega⟩, fun taken => ?_⟩
      cases taken
      omega

end Sharing

end Value

namespace Store

open Value

variable {store later : Store} {values : List Value} {value part : Value}

/-! ## Values from factories -/

/-- A call of a factory on values that were made before. -/
inductive FactoryCall (values : List Value) : StateM Store Value → Prop
  | string (text : String) : FactoryCall values (newString text)
  | pair {car cdr : Value} (first : car ∈ values) (second : cdr ∈ values) :
      FactoryCall values (newPair car cdr)
  | list {items : List Value} (made : ∀ item ∈ items, item ∈ values) :
      FactoryCall values (newList items)
  | lambda {code : Lambda} (body : code.body ∈ values) : FactoryCall values (newLambda code)
  | condition (message : String) {irritants : List Value}
      (made : ∀ irritant ∈ irritants, irritant ∈ values) :
      FactoryCall values (newCondition message irritants)

/-- The values that were made on the way to a store. Values without an allocation are there for the
taking, a factory makes one from earlier ones, and what lies inside a value can be taken out. Between
these steps the store may change in any other way. -/
inductive Made : List Value → Store → Prop
  | start (store : Store) : Made [] store
  | plain {values : List Value} {store : Store} {value : Value} (made : Made values store)
      (plain : value.identity? = none) : Made (value :: values) store
  | call {values : List Value} {store : Store} {factory : StateM Store Value}
      (made : Made values store) (call : FactoryCall values factory) :
      Made ((factory store).1 :: values) (factory store).2
  | field {values : List Value} {store : Store} {value part : Value} (made : Made values store)
      (member : value ∈ values) (inside : part ∈ value.fields) : Made (part :: values) store
  | change {values : List Value} {store later : Store} (made : Made values store)
      (change : Change store later) : Made values later

/-- Numbers of allocations are never given back. -/
theorem Change.nextIdentity_le (change : Change store later) :
    store.nextIdentity ≤ later.nextIdentity := by
  cases change with
  | allocate => exact Nat.le_add_right ..
  | _ => exact Nat.le_refl _

/-- One number is taken for one value with old fields. -/
private theorem sharing_one (sharing : Sharing values (store.nextIdentity ≤ ·))
    (old : ∀ field ∈ value.fields, field ∈ values)
    (number : value.identity? = some store.nextIdentity)
    (taken : later.nextIdentity = store.nextIdentity + 1) :
    Sharing (value :: values) (later.nextIdentity ≤ ·) := by
  refine (sharing.cons old fun id taken => ?_).mono (fun _ => occurs_of_mem) fun id above => ?_
  · cases number.symm.trans taken
    exact Nat.le_refl _
  · rw [taken] at above
    rw [number]
    refine ⟨Nat.le_of_succ_le above, fun same => ?_⟩
    cases same
    exact Nat.not_succ_le_self _ above

private theorem sharing_plain {free : Identity → Prop} (sharing : Sharing values free)
    (plain : value.identity? = none) : Sharing (value :: values) free := by
  refine (sharing.cons ?_ fun id taken => ?_).mono (fun _ => occurs_of_mem) fun id isFree => ?_
  · rw [fields_eq_nil plain]
    exact List.forall_mem_nil _
  · cases plain.symm.trans taken
  · rw [plain]
    exact ⟨isFree, nofun⟩

private theorem sharing_call (sharing : Sharing values (store.nextIdentity ≤ ·))
    {factory : StateM Store Value} (call : FactoryCall values factory) :
    Sharing ((factory store).1 :: values) ((factory store).2.nextIdentity ≤ ·) := by
  cases call with
  | string text => exact sharing_one sharing (List.forall_mem_nil _) rfl rfl
  | pair first second =>
    exact sharing_one sharing
      (List.forall_mem_cons.mpr ⟨first, List.forall_mem_singleton.mpr second⟩) rfl rfl
  | @list items made =>
    have ended : Sharing (.null :: values) (store.nextIdentity ≤ ·) := sharing_plain sharing rfl
    have chain := ended.listFrom List.mem_cons_self items
      (fun item member => List.mem_cons_of_mem _ (made item member)) store.nextIdentity
      fun _ above _ => above
    refine chain.mono (fun value member => ?_) fun id above => ?_
    · rcases List.mem_cons.mp member with rfl | member
      · exact occurs_of_mem List.mem_cons_self
      · exact occurs_of_mem (List.mem_cons_of_mem _ (List.mem_cons_of_mem _ member))
    · exact ⟨Nat.le_of_add_right_le above, .inr above⟩
  | lambda body => exact sharing_one sharing (List.forall_mem_singleton.mpr body) rfl rfl
  | condition message made => exact sharing_one sharing made rfl rfl

/-- Made values share their parts: one number stands for one value, and the numbers that are still
to be given out do not occur. -/
theorem Made.sharing (made : Made values store) : Sharing values (store.nextIdentity ≤ ·) := by
  induction made with
  | start => exact .nil _
  | plain _ plain ih => exact sharing_plain ih plain
  | call _ call ih => exact sharing_call ih call
  | field _ member inside ih =>
    refine ih.mono (List.forall_mem_cons.mpr ⟨?_, fun _ => occurs_of_mem⟩) fun _ => id
    exact (occurs_of_mem member).field inside
  | change _ change ih =>
    exact ih.mono (fun _ => occurs_of_mem) fun _ => change.nextIdentity_le.trans

end Store

end SchemeBase
