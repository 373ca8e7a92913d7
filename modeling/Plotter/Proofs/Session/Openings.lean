import Plotter.Proofs.Host.Checks
import Plotter.Proofs.Session.Leavings

/-!
# A host can be set up at every moment

No event of a session makes a scratch directory, and a number that was given is not given again. So
the scratch directories that are there have numbers of ones that were made (`Machine.Counted`) at
every moment, however many of them were let go of. This is all that a set-up asks of the machine.

## What is proved

* `Moment.counted_after`: the numbers are in order at every moment.
* `Moment.allOrNothing_after`: so setting up a host beside another is all or nothing at every moment.
-/

namespace Plotter

open Workshop (Furnished)

namespace Machine

variable {m m' : Machine}

theorem counted_iff :
    m.Counted ↔ ∀ number, m.hasScratch number = true → number < m.opened := by
  constructor
  · intro counted number there
    obtain ⟨s, member, same⟩ := List.find?_isSome.1 there
    exact beq_iff_eq.1 same ▸ counted s member
  · intro counted s member
    exact counted s.number (List.find?_isSome.2 ⟨s, member, beq_self_eq_true _⟩)

/-- Where no scratch directory came up, the numbers are in order still. -/
theorem Counted.of_fewer (h : m.Counted) (opened : m'.opened = m.opened)
    (fewer : ∀ number, m'.hasScratch number = true → m.hasScratch number = true) : m'.Counted := by
  rw [counted_iff] at h ⊢
  rw [opened]
  exact fun number there => h number (fewer number there)

end Machine

/-- The numbers are in order in a workshop that was furnished. -/
theorem Workshop.Furnished.counted {w : Workshop} (h : w.Furnished) : w.machine.Counted := by
  induction h with
  | empty unused => exact Machine.Unused.counted unused
  | add furnished equipped settled ih =>
    obtain ⟨rfl, -⟩ := Host.of_onBench settled
    obtain ⟨-, opened, scratches, -⟩ := Bench.of_withToolchain equipped
    exact Machine.OneMore.counted ⟨opened, scratches⟩ ih

/-- Letting go of what is not needed makes no scratch directory. -/
theorem Session.hasScratch_of_reclaim {s : Session} {number : Nat}
    (there : s.reclaim.workshop.machine.hasScratch number = true) :
    s.workshop.machine.hasScratch number = true := by
  have closed (unneeded : List (Nat × Host)) (m : Machine)
      (left : (unneeded.foldl (fun m entry => m.closeScratch entry.2.bench.scratch) m).hasScratch
        number = true) : m.hasScratch number = true := by
    induction unneeded generalizing m with
    | nil => exact left
    | cons entry unneeded ih =>
      have before := ih _ left
      rw [Machine.hasScratch_closeScratch, Bool.and_eq_true] at before
      exact before.2
  rw [← s.workshop.sameRooms_release s.dropTasks.uses number]
  exact closed _ _ there

namespace Moment

variable {w : Workshop}

/-- **The numbers of scratch directories are in order at every moment.** -/
theorem counted_after (furnished : w.Furnished) (events : List Event) :
    ((first w).after events).session.workshop.machine.Counted := by
  have stays (events : List Event) := (steady_after furnished events).machine.opened
  induction events using List.reverseRecOn with
  | nil => exact furnished.counted
  | append_singleton events e ih =>
    refine ih.of_fewer ((stays _).trans (stays events).symm) fun number there => ?_
    rw [after_append, after_cons, after_nil] at there
    by_cases reclaim : e = .reclaim
    · subst reclaim
      simp only [react] at there
      split at there
      · exact Session.hasScratch_of_reclaim there
      · exact there
    · rwa [sameRooms_react ((steady_after furnished events).ready furnished.ready) reclaim] at there

/-- **Setting up a host beside another is all or nothing at every moment.** -/
theorem allOrNothing_after (furnished : w.Furnished) (events : List Event) (host : Host)
    (s : HostSettings) :
    let m := ((first w).after events).session.workshop.machine
    Host.AllOrNothing m (Host.FirstFails m s Host.Check.further) (Host.New m s)
      (host.beside m s) :=
  Host.allOrNothing_beside (counted_after furnished events) host

end Moment

end Plotter
