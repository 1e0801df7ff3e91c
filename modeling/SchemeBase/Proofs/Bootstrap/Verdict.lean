import SchemeBase.Proofs.Bootstrap.Order
import SchemeBase.Proofs.Symbol.Capacity

/-! # The verdict on a selection

On a global environment a selection of libraries is refused for what it holds and for nothing else:
a name that is not valid, or two values of one name that are not equivalent. Staging compares each
value with the first of its name only, and finds a fault just when some two values of a name differ,
since equivalence is transitive. A selection that is not refused is installed unless a shard of the
table overflows.
-/

namespace SchemeBase.Bootstrap

variable {store : Store} {e : FrameId} {bootstrap : Bootstrap}

/-- Once a selection is staged, only a full shard can end the run. -/
theorem not_isRefusal_of_staged {staging : Staging} (top : store.isGlobal e = true)
    (staged : stage bootstrap.libraries = .ok staging) {error : BootstrapError}
    (failure : (bootstrap.run e store).1 = .error error) : ¬ error.IsRefusal := by
  obtain ⟨inner, _⟩ | ⟨_, ⟨_, ends, _⟩ | ⟨_, _, ⟨_, _, run⟩ | ⟨cause, _, _, run⟩⟩⟩ :=
    bootstrap.run_cases e store
  · cases top.symm.trans inner
  · cases staged.symm.trans ends
  · rw [run] at failure
    cases failure
  · rw [run] at failure
    cases failure
    exact id

/-- A selection with a fault is refused with the error of its first library with one. -/
theorem run_of_stage_error {error : BootstrapError} (top : store.isGlobal e = true)
    (refused : stage bootstrap.libraries = .error error) :
    bootstrap.run e store = (.error error, store) := by
  obtain ⟨inner, _⟩ | ⟨_, ⟨_, ends, run⟩ | ⟨_, accepted, _⟩⟩ := bootstrap.run_cases e store
  · cases top.symm.trans inner
  · cases refused.symm.trans ends
    exact run
  · cases refused.symm.trans accepted

/-- A selection without fault is installed where no shard overflows with its names. -/
theorem exists_run_of_fits (ready : store.Ready e) (top : store.isGlobal e = true)
    (sound : ∀ library ∈ bootstrap.libraries, library.Sound (offersOf bootstrap.libraries))
    (room : (store.tableOf e).Fits ((bindingsOf bootstrap.libraries).map Binding.name)) :
    ∃ report, (bootstrap.run e store).1 = .ok report := by
  obtain ⟨wide, valid, covers, names⟩ := ready.valid.exists_covers room
  refine exists_run ready top sound valid covers fun offer offered => names _ ?_
  exact List.mem_map_of_mem (mem_bindingsOf_iff.mpr ⟨offer, offered, rfl⟩)

/-- A selection on a global environment is refused just when some name in it is invalid or some two
offers of one name have values that are not equivalent, and then with the error of its first library
with a fault. Where the table has room for its names, a selection that is not refused is installed. -/
theorem run_refusal (bootstrap : Bootstrap) (store : Store) (e : FrameId)
    (top : store.isGlobal e = true) :
    ((∃ error, (bootstrap.run e store).1 = .error error ∧ error.IsRefusal) ↔
      (∃ offer ∈ offersOf bootstrap.libraries, ∃ cause,
        Text.checkName offer.binding.name = .error cause) ∨
      ∃ a ∈ offersOf bootstrap.libraries, ∃ b ∈ offersOf bootstrap.libraries,
        a.binding.name = b.binding.name ∧ a.binding.value.eqv b.binding.value = false) ∧
    (∀ error, (bootstrap.run e store).1 = .error error → error.IsRefusal →
      Refused bootstrap.libraries error) ∧
    (store.Reachable → e < store.frames.size →
      (store.tableOf e).Fits ((bindingsOf bootstrap.libraries).map Binding.name) →
      ((∃ report, (bootstrap.run e store).1 = .ok report) ↔
        ¬ ∃ error, (bootstrap.run e store).1 = .error error ∧ error.IsRefusal)) := by
  rw [← not_forall_sound_iff]
  obtain ⟨sound, staging, staged, _⟩ | ⟨fault, refused, staged⟩ := stage_cases bootstrap.libraries
  · have accepted : ¬ ∃ error, (bootstrap.run e store).1 = .error error ∧ error.IsRefusal := by
      rintro ⟨error, failure, refusal⟩
      exact not_isRefusal_of_staged top staged failure refusal
    refine ⟨iff_of_false accepted (not_not.mpr sound), ?_, fun reachable made room => ?_⟩
    · intro error failure refusal
      exact absurd ⟨error, failure, refusal⟩ accepted
    · exact iff_of_true (exists_run_of_fits (reachable.wellFormed.ready made) top sound room) accepted
  · have run := run_of_stage_error top staged
    have ends : ∃ error, (bootstrap.run e store).1 = .error error ∧ error.IsRefusal :=
      ⟨fault, congrArg Prod.fst run, refused.isRefusal⟩
    refine ⟨iff_of_true ends refused.not_forall_sound, ?_,
      fun _ _ _ => iff_of_false ?_ (not_not.mpr ends)⟩
    · intro error failure _
      rw [run] at failure
      cases failure
      exact refused
    · rintro ⟨report, success⟩
      rw [run] at success
      cases success

/-- The second library binds a name anew, after agreeing on another one. The first library alone is
installed. -/
theorem run_refusal_collision :
    let one : Library := ⟨"one", [⟨"x", .integer 1⟩, ⟨"y", .boolean true⟩]⟩
    let two : Library := ⟨"two", [⟨"y", .boolean true⟩, ⟨"x", .integer 2⟩, ⟨"x", .integer 1⟩]⟩
    let store := (Store.createGlobal {}).2
    store.isGlobal 0 = true ∧ store.Reachable ∧ 0 < store.frames.size ∧
      (run ⟨[.host one, .host two]⟩ 0 store).1 = .error (.collision "x" "one" "two") ∧
      Refused [one, two] (.collision "x" "one" "two") ∧
      (store.tableOf 0).Fits ["x", "y"] ∧ ∃ report, (run ⟨[.host one]⟩ 0 store).1 = .ok report := by
  intro one two store
  have top : store.isGlobal 0 = true := rfl
  have reachable : store.Reachable := .createGlobal .refl
  have made : 0 < store.frames.size := Nat.one_pos
  have failure : (run ⟨[.host one, .host two]⟩ 0 store).1 = .error (.collision "x" "one" "two") := by
    decide +kernel
  have room : (store.tableOf 0).Fits ["x", "y"] := by
    have few : (store.tableOf 0).size + ["x", "y"].length ≤ Symbol.maxSlot + 1 := by decide +kernel
    exact (reachable.wellFormed.ready made).valid.fits_of_size_le few
  have short : ∀ offer ∈ offersOf [one], Text.checkName offer.binding.name = .ok 1 := by
    decide +kernel
  have agree : ∀ a ∈ offersOf [one], ∀ b ∈ offersOf [one], a.binding.name = b.binding.name →
      a.binding.value.eqv b.binding.value = true := by decide +kernel
  obtain ⟨refusal, _, installed⟩ := run_refusal ⟨[.host one]⟩ store 0 top
  refine ⟨top, reachable, made, failure, ?_, room, (installed reachable made room).mpr ?_⟩
  · exact (run_refusal ⟨[.host one, .host two]⟩ store 0 top).2.1 _ failure trivial
  · intro ends
    obtain ⟨offer, offered, cause, invalid⟩ | ⟨a, offered, b, again, same, apart⟩ := refusal.mp ends
    · cases (short offer offered).symm.trans invalid
    · cases (agree a offered b again same).symm.trans apart

end SchemeBase.Bootstrap
