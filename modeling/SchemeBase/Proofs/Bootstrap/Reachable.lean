import SchemeBase.Proofs.Bootstrap.Refusal
import SchemeBase.Proofs.Store.Definition

/-! # Installations keep to reachable stores

An installation does nothing to a store but intern names and bind them, also where it is refused or
ends early for want of room. So the stores that installations lead to are reachable ones.
-/

namespace SchemeBase

open Store

variable {store : Store} {e : FrameId}

theorem Library.changes_install (library : Library) (ready : store.Ready e) :
    Changes store (library.install e store).2 := by
  have changes := changes_defineAll library.bindings ready
  obtain ⟨_, run⟩ | ⟨_, _, _, _, run⟩ | ⟨_, _, _, defined, run⟩ | ⟨_, _, _, _, ends, run⟩ :=
    library.install_cases e store
  · rw [run]
  · rw [run]
  · rw [run]
    rwa [defined] at changes
  · rw [run]
    rwa [ends] at changes

theorem LibraryKind.changes_install (kind : LibraryKind) (ready : store.Ready e) :
    Changes store (kind.install e store).2 := by
  rw [LibraryKind.install_eq]
  exact kind.library.changes_install ready

theorem Bootstrap.changes_run (bootstrap : Bootstrap) (ready : store.Ready e) :
    Changes store (bootstrap.run e store).2 := by
  obtain ⟨_, _, _, _, run⟩ |
      ⟨_, ⟨_, _, run⟩ | ⟨staging, _, ⟨_, defined, run⟩ | ⟨_, _, ends, run⟩⟩⟩ :=
    bootstrap.run_cases e store
  · rw [run]
  · rw [run]
  · have changes := changes_defineAll staging.bindings.toList ready
    rw [run]
    rwa [defined] at changes
  · have changes := changes_defineAll staging.bindings.toList ready
    rw [run]
    rwa [ends] at changes

namespace Store.Reachable

variable (reachable : store.Reachable) (made : e < store.frames.size)

include reachable made

theorem install (library : Library) : (library.install e store).2.Reachable :=
  reachable.trans (library.changes_install (reachable.wellFormed.ready made))

theorem run (bootstrap : Bootstrap) : (bootstrap.run e store).2.Reachable :=
  reachable.trans (bootstrap.changes_run (reachable.wellFormed.ready made))

end Store.Reachable

end SchemeBase
