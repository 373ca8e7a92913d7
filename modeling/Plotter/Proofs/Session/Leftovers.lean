import Plotter.Proofs.Session.Submissions

/-!
# What stays of a run that nobody killed

A task that is told to stop kills its run of the compiler when it stops. If that run is over by then,
it cannot be killed any more. What it has left is at its place, or will be put there
(`Moment.Late`), and it stays: the task has stopped and does not look for it, and no other run ever
has its place (`Moment.Unclaimed`).

## What is proved

* `Moment.Effect.at?_elsewhere`: an effect changes nothing at a place that is no run's, unless what is
  not needed is let go of.
* `Moment.Unclaimed.react`: what is at a place of nobody's stays.
* `Moment.Late.react`: what a run has left that was over before its task stopped is at a place of
  nobody's once the task has stopped.
* `Moment.isSome_at?_land`: what has come to stay in one of these ways is there at the end.
-/

namespace Plotter

/-- The run for which a request waits has the place of its library. -/
theorem Phase.of_mem_jobs {hosts : List Host} {r : Request} {lands : Bool} {phase : Phase} {j : Job}
    (member : j ∈ phase.jobs hosts r lands) :
    ∃ host retried c, hosts[r.host]? = some host ∧ phase = .compiling retried c ∧
      j = ⟨host.bench.scratch, c, lands⟩ := by
  cases phase with
  | compiling retried c =>
    cases found : hosts[r.host]? with
    | none => simp [jobs, found] at member
    | some host =>
      rw [jobs_compiling found, List.mem_singleton] at member
      exact ⟨host, retried, c, rfl, rfl, member⟩
  | _ => simp [jobs] at member

namespace Moment

variable {m : Moment} {e : Event} {p : Place}

/-! ### Places of nobody's -/

section

variable {runs left : List Job} {gone : List Place} {w : Workshop}

/-- **Nothing changes at a place that is no run's**, unless what is not needed is let go of. -/
theorem Effect.at?_elsewhere (effect : m.Effect e runs left gone w)
    (ready : m.session.workshop.Ready) (other : e ≠ .reclaim) (nobody : ∀ j ∈ runs, j.place ≠ p) :
    w.machine.at? p = m.session.workshop.machine.at? p := by
  cases effect with
  | idle untaken => rfl
  | machine _ quiet scratches => exact Machine.at?_congr scratches p
  | @step _ c r phase lands others standing mine =>
    cases found : m.session.workshop.hosts[r.host]? with
    | none => simp only [Workshop.advance, found]
    | some host =>
      refine Workshop.at?_advance_other ready found fun retried c compiling => ?_
      subst compiling
      rw [Phase.jobs_compiling found] at nobody
      exact nobody ⟨host.bench.scratch, c, lands⟩ List.mem_cons_self
  | @drop _ r phase lands others _ =>
    rcases m.session.workshop.jobs_cases r phase lands with
      ⟨-, same, -⟩ | ⟨host, c, job, dropped, -⟩
    · rw [same]
    · rw [job] at nobody
      rw [dropped]
      exact (host.bench.onlyAt_drop m.session.workshop.machine c).elsewhere p
        (nobody ⟨host.bench.scratch, c, lands⟩ List.mem_cons_self).symm
  | call => exact Machine.at?_congr (m.session.workshop.scratches_call ..) p
  | land =>
    refine Session.at?_land fun t member phase stands host retried c found compiling own => ?_
    subst compiling
    exact absurd own (nobody _ (job_of_task member stands found))
  | reclaim idle => exact absurd rfl other

/-- A place that is no run's is none's after an effect, if its name was given before. -/
theorem Effect.nobody (effect : m.Effect e runs left gone w) (ready : m.session.workshop.Ready)
    (ledger : m.session.workshop.Ledger runs)
    (bound : w.machine.attempts.length ≤ UInt64.size)
    (named : m.session.workshop.machine.Named m.session.workshop.names p.file)
    (nobody : ∀ j ∈ runs, j.place ≠ p) : ∀ j ∈ left, j.place ≠ p := by
  cases effect with
  | @step _ c r phase lands others standing mine =>
    intro j member
    rcases List.mem_append.1 member with own | among
    · cases moves : phase.moves with
      | false =>
        rw [Workshop.advance_of_stuck _ _ moves] at own
        exact nobody j (List.mem_append_left _ own)
      | true =>
        obtain ⟨host, retried, c', found, begun, rfl⟩ := Phase.of_mem_jobs own
        rintro rfl
        exact Workshop.fresh_advance ledger ready found moves bound begun named
    · exact nobody j (List.mem_append_right _ among)
  | drop _ => exact fun j member => nobody j (List.mem_append_right _ member)
  | _ => exact nobody

end

/-- Something is at a place that no run under way has. -/
structure Unclaimed (m : Moment) (p : Place) : Prop where
  there : (m.session.workshop.machine.at? p).isSome = true
  nobody : ∀ j ∈ m.jobs, j.place ≠ p

/-- **What is at a place of nobody's stays there.** -/
theorem Unclaimed.react (h : m.Unclaimed p) (numbered : m.session.Numbered)
    (ready : m.session.workshop.Ready) (ledger : m.Ledger) (other : e ≠ .reclaim)
    (bound : (m.react e).session.workshop.machine.attempts.length ≤ UInt64.size) :
    (m.react e).Unclaimed p := by
  obtain ⟨runs, left, before, after, effect⟩ := m.hasEffect e
  have nobody (j : Job) (member : j ∈ runs) : j.place ≠ p := h.nobody j (before.mem_iff.2 member)
  have named := Machine.Ledger.filed ledger p h.there
  have ledger' : m.session.workshop.Ledger runs := Machine.Ledger.perm ledger before.symm
  refine ⟨?_, fun j member => ?_⟩
  · rw [effect.at?_elsewhere ready other nobody]
    exact h.there
  · exact effect.nobody ready ledger' bound named nobody j
      ((after numbered ready).mem_iff.1 member)

/-! ### Tasks that stop too late -/

/-- A task that was told to stop waits for a run that is over, and that leaves something at a
place. -/
structure Late (m : Moment) (t : Task) (p : Place) : Prop where
  member : t ∈ m.session.tasks
  waits : ∃ retried c host run killed, t.state = .stopping (.compiling retried c) ∧
    m.session.workshop.hosts[t.request.host]? = some host ∧ host.bench.placeOf c.unit = p ∧
      m.session.workshop.machine.hasScratch host.bench.scratch = true ∧
        c.response = .started (.ended run) killed ∧
          c.isOver m.session.workshop.machine.clock = true ∧ run.left.isSome = true

/-- A task that was told to stop is told to still, or stops. -/
theorem nextState_of_stopping {t : Task} {phase : Phase} (stopping : t.state = .stopping phase)
    (e : Event) : m.nextState e t = .stopping phase ∨ e = .stop t.ticket := by
  cases e with
  | submit expression label =>
    refine .inl ?_
    rw [nextState, stopping]
    exact ite_self _
  | cancel =>
    refine .inl ?_
    rw [nextState, stopping]
    exact ite_self _
  | stop n =>
    by_cases own : t.ticket = n
    · exact .inr (by rw [own])
    · exact .inl (by rw [nextState, if_neg own, stopping])
  | proceed n =>
    refine .inl ?_
    rw [nextState, Session.stepState, stopping]
    exact ite_self _
  | _ => exact .inl stopping

/-- **A task stops whose run is over**: what this has left is there, at a place of nobody's. -/
theorem Late.stop {t : Task} (h : m.Late t p) (numbered : m.session.Numbered) (ledger : m.Ledger) :
    (m.react (.stop t.ticket)).Unclaimed p := by
  obtain ⟨retried, c, host, run, killed, stopping, found, rfl, there, response, ended, left⟩ :=
    h.waits
  have known := numbered.task?_eq h.member
  let j : Job := ⟨host.bench.scratch, c, true⟩
  have job : Phase.jobs m.session.workshop.hosts t.request true (.compiling retried c) = [j] :=
    Phase.jobs_compiling found ..
  constructor
  · have dropped : (m.react (.stop t.ticket)).session.workshop.machine =
        host.bench.drop m.session.workshop.machine c := by
      simp only [react, Session.stop, known, Session.stopTask, stopping, Session.setState,
        Workshop.abandon, found]
    have leaves : c.leftAt m.session.workshop.machine.clock = run.left := by
      simp only [Compilation.leftAt, response, ended, if_true]
    have before := Machine.Ledger.own ledger (job_of_task h.member (by rw [stopping]; rfl) found)
    have own : j.left = run.left := by simp only [j, Job.left, response]
    have stays := Bench.at?_drop (b := host.bench) (by rw [leaves, ← own]; exact before)
    rw [leaves, there, if_pos rfl] at stays
    rw [dropped]
    exact (congrArg Option.isSome stays).trans left
  · obtain ⟨others, all, changed⟩ := jobs_of_task known (by rw [stopping]; rfl)
    have rest : (m.react (.stop t.ticket)).jobs.Perm others := by
      simp only [react, Session.stop, known, Session.stopTask, stopping]
      exact changed numbered _ .superseded (m.session.workshop.quiet_abandon ..).hosts
    rw [job] at all
    have distinct := (all.map Job.place).nodup_iff.1 (Machine.Ledger.distinct ledger)
    intro k member same
    exact (List.nodup_cons.1 distinct).1 (List.mem_map.2 ⟨k, rest.mem_iff.1 member, same⟩)

/-- **A task that is late stays late, until it has stopped.** -/
theorem Late.react {t : Task} (h : m.Late t p) (numbered : m.session.Numbered)
    (ready : m.session.workshop.Ready) (ledger : m.Ledger) (background : e.isBackground = true) :
    (∃ u, (m.react e).Late u p) ∨ (m.react e).Unclaimed p := by
  obtain ⟨retried, c, host, run, killed, stopping, found, own, there, response, ended, left⟩ :=
    h.waits
  obtain ⟨u, found', request, state⟩ :=
    task?_react numbered background (numbered.task?_eq h.member)
  rcases nextState_of_stopping (m := m) stopping e with same | rfl
  · have steady := steady_react ready e
    refine .inl ⟨u, Session.mem_of_task? found', retried, c, host, run, killed, state.trans same, ?_,
      own, ?_, response, Compilation.isOver_mono steady.machine.clock ended, left⟩
    · rw [steady.hosts, request]
      exact found
    · rw [sameRooms_react ready (by rintro rfl; cases background)]
      exact there
  · exact .inr (h.stop numbered ledger)

/-- What a run has left is there once it has landed. -/
theorem Late.isSome_at?_land {t : Task} (h : m.Late t p) (ledger : m.Ledger) :
    ((m.react .land).session.workshop.machine.at? p).isSome = true := by
  obtain ⟨retried, c, host, run, killed, stopping, found, rfl, there, response, ended, left⟩ :=
    h.waits
  have landed := landed_land ledger t h.member _ (by rw [stopping]; rfl) _ host retried c
    (m.session.quiet_land.hosts.symm ▸ found) rfl rfl
  have here := landed run killed response (m.session.clock_land.symm ▸ ended)
  rw [m.session.sameRooms_land, there, if_pos rfl] at here
  exact (congrArg Option.isSome here).trans left

/-- **What a run leaves that is over before its task stops is there in the end**, once what runs have
left is put in its place. -/
theorem isSome_at?_land {events : List Event} (numbered : m.session.Numbered)
    (ready : m.session.workshop.Ready) (ledger : m.Ledger)
    (background : ∀ e ∈ events, e.isBackground = true)
    (bound : (m.after events).session.workshop.machine.attempts.length ≤ UInt64.size)
    (stays : (∃ t, m.Late t p) ∨ m.Unclaimed p) :
    (((m.after events).react .land).session.workshop.machine.at? p).isSome = true := by
  induction events generalizing m with
  | nil =>
    rcases stays with ⟨t, late⟩ | unclaimed
    · exact late.isSome_at?_land ledger
    · refine (unclaimed.react (e := .land) numbered ready ledger nofun ?_).there
      rw [(m.quiet_react (e := .land) rfl).machine.attempts]
      exact bound
  | cons e events ih =>
    have steady := steady_react ready e
    have now := background e List.mem_cons_self
    have grows := (steady_later (steady.ready ready) events).machine.recorded.length_le
    have bound' := Nat.le_trans grows bound
    have ledger' := ledger_react ledger numbered ready e bound'
    refine ih (numbered_react numbered e) (steady.ready ready) ledger'
      (fun f member => background f (List.mem_cons_of_mem e member)) bound ?_
    rcases stays with ⟨t, late⟩ | unclaimed
    · exact late.react numbered ready ledger now
    · exact .inr (unclaimed.react numbered ready ledger (by rintro rfl; cases now) bound')

end Moment

end Plotter
