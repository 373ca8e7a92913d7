import Plotter.Proofs.Request.Leavings
import Plotter.Proofs.Session.Keeping

/-!
# What a run left is what is found

Whatever the compiler does, and whatever happens in a session: when a request takes up a run of the
compiler that came to its end, there is at the place of its library what that run left, and nothing
else, provided that the scratch directory is there. The scratch directory of a host that the user
holds is there; and it stays as long as a request to the host goes on, even if the user lets go of
the host in the meantime.

## What is proved

* `Moment.ledger_after`: every run under way has a place of its own, as long as the serial numbers of
  names have not come round.
* `Moment.hasScratch_of_holds`, `Moment.hasScratch_standing`: which scratch directories are there.
* `Moment.noZero_standing`: no zero character is in a path for a library.
-/

namespace Plotter

/-! ### Each run has its place -/

/-- The runs of several tasks land one after the other. -/
theorem Workshop.ledger_landAll {w : Workshop} {jobs : List Job} {tasks : List Task}
    (h : w.Ledger jobs) (among : tasks.flatMap (Task.jobs w.hosts) ⊆ jobs) :
    (tasks.foldl (fun w t => match t.state.phase? with
      | some phase => w.land t.request phase
      | none => w) w).Ledger jobs := by
  induction tasks generalizing w with
  | nil => exact h
  | cons t tasks ih =>
    rw [List.flatMap_cons, List.append_subset] at among
    obtain ⟨own, others⟩ := among
    rw [List.foldl_cons]
    cases stands : t.state.phase? with
    | none => exact ih h others
    | some phase =>
      simp only [Task.jobs, stands] at own
      refine ih (Workshop.ledger_land h own) ?_
      rw [(w.quiet_land t.request phase).hosts]
      exact others

/-- Scratch directories are removed. -/
theorem Session.ledger_closeScratches {s : Session} {jobs : List Job} (h : s.workshop.Ledger jobs) :
    s.closeScratches.workshop.Ledger jobs := by
  have closed {unneeded : List (Nat × Host)} {m : Machine} {names : NameSource}
      (h : m.Ledger names jobs) :
      (unneeded.foldl (fun m entry => m.closeScratch entry.2.bench.scratch) m).Ledger names
        jobs := by
    induction unneeded generalizing m with
    | nil => exact h
    | cons entry unneeded ih =>
      refine ih (h.remove (m.quiet_closeScratch entry.2.bench.scratch) fun p => ?_)
      rw [Machine.at?_closeScratch]
      split
      · exact .inr rfl
      · exact .inl rfl
  exact closed h

namespace Moment

variable {m : Moment}

/-- The ledger of a moment. -/
def Ledger (m : Moment) : Prop := m.session.workshop.Ledger m.jobs

/-- **An effect keeps the ledger.** -/
theorem Effect.ledger {e : Event} {runs left : List Job} {gone : List Place} {w : Workshop}
    (effect : m.Effect e runs left gone w) (ready : m.session.workshop.Ready)
    (bound : w.machine.attempts.length ≤ UInt64.size) (h : m.session.workshop.Ledger runs) :
    w.Ledger left := by
  cases effect with
  | idle untaken => exact h
  | machine _ quiet scratches =>
    exact Workshop.Ledger.same h (m.session.workshop.quiet_machine quiet) scratches
  | step standing mine => exact Workshop.ledger_advance ready h bound
  | drop _ => exact Workshop.ledger_abandon h
  | call =>
    exact Workshop.Ledger.same h (m.session.workshop.quiet_call ..)
      (m.session.workshop.scratches_call ..)
  | land =>
    exact Workshop.ledger_landAll h (List.subset_append_right m.awaitedJobs m.session.jobs)
  | reclaim idle =>
    have released : m.session.dropTasks.releaseInstances.workshop.Ledger m.jobs :=
      Workshop.ledger_release h m.session.dropTasks.uses
    exact Session.ledger_closeScratches released

/-- **An event keeps the ledger.** -/
theorem ledger_react (h : m.Ledger) (numbered : m.session.Numbered)
    (ready : m.session.workshop.Ready) (e : Event)
    (bound : (m.react e).session.workshop.machine.attempts.length ≤ UInt64.size) :
    (m.react e).Ledger := by
  obtain ⟨runs, left, before, after, effect⟩ := m.hasEffect e
  have kept := effect.ledger ready bound (Machine.Ledger.perm h before.symm)
  exact Machine.Ledger.perm kept (after numbered ready)

/-- **Each run has its place at every moment**, as long as the serial numbers of names have not come
round. -/
theorem ledger_after {w : Workshop} (furnished : w.Furnished) (events : List Event)
    (bound : ((first w).after events).session.workshop.machine.attempts.length ≤ UInt64.size) :
    ((first w).after events).Ledger := by
  induction events using List.reverseRecOn with
  | nil => exact furnished.ledger
  | append_singleton events e ih =>
    have ready := (steady_after furnished events).ready furnished.ready
    rw [after_append, after_cons, after_nil] at bound ⊢
    have grows := (steady_react ready e).machine.recorded.length_le
    exact ledger_react (ih (Nat.le_trans grows bound)) (numbered_after w events) ready e bound

end Moment

/-! ### Which scratch directories are there -/

namespace Session

open Workshop (SameRooms)

variable {s : Session}

theorem sameRooms_land (s : Session) : s.workshop.SameRooms s.land.workshop := by
  simp only [Session.land]
  generalize s.tasks = tasks
  generalize s.workshop = w
  induction tasks generalizing w with
  | nil => exact .refl w
  | cons t tasks ih =>
    refine SameRooms.trans ?_ (ih _)
    dsimp only
    split
    · exact w.sameRooms_land _ _
    · exact .refl w

/-- A scratch directory is not removed while it is needed. -/
theorem hasScratch_closeScratches (apart : s.workshop.Apart) {number : Nat} {host : Host}
    (found : s.workshop.hosts[number]? = some host) (needed : s.needsScratch number host = true) :
    s.closeScratches.workshop.machine.hasScratch host.bench.scratch =
      s.workshop.machine.hasScratch host.bench.scratch := by
  have closed (unneeded : List (Nat × Host)) (m : Machine)
      (others : ∀ entry ∈ unneeded, host.bench.scratch ≠ entry.2.bench.scratch) :
      (unneeded.foldl (fun m entry => m.closeScratch entry.2.bench.scratch) m).hasScratch
        host.bench.scratch = m.hasScratch host.bench.scratch := by
    induction unneeded generalizing m with
    | nil => rfl
    | cons entry unneeded ih =>
      have other := others entry (List.mem_cons_self ..)
      rw [List.foldl_cons, ih _ fun e member => others e (List.mem_cons_of_mem entry member)]
      simp [Machine.hasScratch_closeScratch, other]
  refine closed _ _ ?_
  rintro ⟨number', host'⟩ member same
  obtain ⟨numbered, unneeded⟩ := List.mem_filter.1 member
  obtain rfl := apart.number_eq found (mem_zip_hosts.1 numbered) same
  obtain rfl := Option.some.inj (found.symm.trans (mem_zip_hosts.1 numbered))
  simp [needed] at unneeded

/-- The scratch directory of a host stays while the user holds the host or a background request to
it is not finished. -/
theorem hasScratch_reclaim (apart : s.workshop.Apart) {number : Nat} {host : Host}
    (found : s.workshop.hosts[number]? = some host)
    (needed : s.holds number = true ∨
      ∃ t ∈ s.tasks, t.request.host = number ∧ t.state.isFinished = false) :
    s.reclaim.workshop.machine.hasScratch host.bench.scratch =
      s.workshop.machine.hasScratch host.bench.scratch := by
  have still : s.dropTasks.releaseInstances.needsScratch number host = true := by
    have held : s.dropTasks.releaseInstances.holds number = s.holds number := rfl
    rcases needed with holds | ⟨t, there, own, unfinished⟩
    · simp [needsScratch, held, holds]
    · have kept : t ∈ s.dropTasks.releaseInstances.tasks :=
        List.mem_filter.2 ⟨there, by simp [unfinished]⟩
      have waits : (s.dropTasks.releaseInstances.tasks.any fun t =>
          t.request.host == number && !t.state.isFinished) = true :=
        List.any_eq_true.2 ⟨t, kept, by simp [own, unfinished]⟩
      simp [needsScratch, waits]
  have released := s.workshop.sameRooms_release s.dropTasks.uses host.bench.scratch
  exact (hasScratch_closeScratches (s := s.dropTasks.releaseInstances) apart found still).trans
    released

end Session

namespace Moment

variable {m : Moment}

/-- No effect makes or removes a scratch directory, unless what is not needed is let go of. -/
theorem Effect.sameRooms {e : Event} {runs left : List Job} {gone : List Place} {w : Workshop}
    (effect : m.Effect e runs left gone w) (ready : m.session.workshop.Ready) (other : e ≠ .reclaim) :
    m.session.workshop.SameRooms w := by
  cases effect with
  | idle untaken => exact .refl _
  | machine _ quiet scratches => exact .of_scratches scratches
  | step standing mine => exact Workshop.sameRooms_advance ready _ _
  | drop _ => exact m.session.workshop.sameRooms_abandon _ _
  | call => exact .of_scratches (m.session.workshop.scratches_call ..)
  | land => exact m.session.sameRooms_land
  | reclaim idle => exact absurd rfl other

/-- No event makes or removes a scratch directory, unless what is not needed is let go of. -/
theorem sameRooms_react (ready : m.session.workshop.Ready) {e : Event} (other : e ≠ .reclaim) :
    m.session.workshop.SameRooms (m.react e).session.workshop := by
  obtain ⟨runs, left, -, -, effect⟩ := m.hasEffect e
  exact effect.sameRooms ready other

/-- A host that was let go of is never held again. -/
theorem holds_before {e : Event} {number : Nat}
    (held : (m.react e).session.holds number = true) : m.session.holds number = true := by
  simp only [Session.holds, Bool.not_eq_true', List.contains_eq_mem, decide_eq_false_iff_not]
    at held ⊢
  exact fun gone => held (m.letGo_react e gone)

/-- The scratch directory of a host that the user holds is there. -/
theorem hasScratch_of_holds {w : Workshop} (furnished : w.Furnished) (events : List Event)
    {number : Nat} {host : Host} (found : w.hosts[number]? = some host)
    (held : ((first w).after events).session.holds number = true) :
    ((first w).after events).session.workshop.machine.hasScratch host.bench.scratch = true := by
  induction events using List.reverseRecOn with
  | nil => exact (furnished.untouched.roomed host (List.mem_of_getElem? found)).2
  | append_singleton events e ih =>
    have steady := steady_after furnished events
    rw [after_append, after_cons, after_nil] at held ⊢
    have there := ih (holds_before held)
    by_cases reclaim : e = .reclaim
    · subst reclaim
      simp only [react] at held ⊢
      split
      · rename_i idle
        simp only [idle] at held
        have stays := Session.hasScratch_reclaim (steady.apart furnished.untouched.apart)
          (steady.hosts.symm ▸ found) (.inl held)
        exact stays.trans there
      · exact there
    · rw [sameRooms_react (steady.ready furnished.ready) reclaim]
      exact there

/-- **The scratch directory of a host stays while a request to it goes on.** -/
theorem hasScratch_standing {w : Workshop} (furnished : w.Furnished) (earlier later : List Event)
    {c : Client} {r : Request} {host : Host} (found : w.hosts[r.host]? = some host)
    (there : ((first w).after earlier).session.workshop.machine.hasScratch
      host.bench.scratch = true)
    (lasts : ∀ before e after, later = before ++ e :: after →
      (((first w).after earlier).after before).Lasts e c) {phase : Phase}
    (now : (((first w).after earlier).after later).standing? c = some (r, phase))
    (unended : phase.isDone = false) :
    (((first w).after earlier).after later).session.workshop.machine.hasScratch
      host.bench.scratch = true := by
  induction later using List.reverseRecOn generalizing phase with
  | nil => exact there
  | append_singleton later e ih =>
    have numbered := numbered_after w (earlier ++ later)
    have steady := steady_after furnished (earlier ++ later)
    rw [after_append] at numbered steady
    rw [after_append, after_cons, after_nil] at now ⊢
    obtain ⟨phase', before, goes⟩ := goes_before numbered (lasts later e [] rfl) now
    have unended' : phase'.isDone = false := goes.isDone_before unended
    have still := ih (fun before' e' after same => lasts before' e' (after ++ [e])
      (by rw [same]; simp)) before unended'
    by_cases reclaim : e = .reclaim
    · subst reclaim
      simp only [react]
      split
      · rename_i idle
        cases c with
        | user => simp [standing?, idle] at before
        | task n =>
          obtain ⟨t, found', rfl, live⟩ := standing?_task.1 before
          have stays := Session.hasScratch_reclaim (steady.apart furnished.untouched.apart)
            (steady.hosts.symm ▸ found)
            (.inr ⟨t, Session.mem_of_task? found', rfl, by rw [live]; exact unended'⟩)
          exact stays.trans still
      · exact still
    · rw [sameRooms_react (steady.ready furnished.ready) reclaim]
      exact still

/-- No zero character is in the path for a library on which a request waits. -/
theorem noZero_standing {w : Workshop} (furnished : w.Furnished) (events : List Event) {c : Client}
    {r : Request} {phase : Phase}
    (standing : ((first w).after events).standing? c = some (r, phase)) : w.NoZero r phase := by
  refine standing_after furnished (P := fun r phase => w.NoZero r phase) ?_ ?_ events standing
  · intro r counter c host compiling
    simp at compiling
  · intro w' r phase steady before counter c host compiling found
    have own : w'.NoZero r phase := by
      intro counter c host compiling found
      have clean := before counter c host compiling (steady.hosts ▸ found)
      simpa only [Bench.libraryPath, Machine.scratchPath, steady.machine.temporary] using clean
    have clean := Workshop.noZero_advance (steady.ready furnished.ready) own counter c host
      compiling (steady.hosts.symm ▸ found)
    simpa only [Bench.libraryPath, Machine.scratchPath, steady.machine.temporary] using clean

end Moment

end Plotter
