import Plotter.Proofs.Session.Background
import Plotter.Proofs.Session.Failures
import Plotter.Proofs.Session.Landing

/-!
# Tasks that stop in time

At most one request is in flight, and the tasks of the others are finished or were told to stop.
Aside from the request in flight the runtime stops tasks, lets time pass, and lets runs of the
compiler leave what they leave. A run that is killed leaves nothing. So none of this changes any
file, if each task that was told to stop does so before the run is over for which it waited, or that
run leaves nothing (`Moment.Timely`), and if what runs have left that were over before is there
already (`Session.Settled`).

## What is proved

* `Moment.InFlight.at?_aside`: what the runtime does aside from the request in flight changes
  nothing but at the place of the run for which the request waits.
* `Moment.quiet_halts`: no instance is made where tasks only stop.
* `Moment.InFlight.halting`, `Moment.Halting.after`: once the request in flight is told to stop,
  tasks only stop, and the files stay.
-/

namespace Plotter

/-! ### What is done aside from a request -/

/-- What the tasks that were told to stop have left is there. -/
def Session.Settled (s : Session) : Prop :=
  ∀ t ∈ s.tasks, ∀ phase, t.state = .stopping phase → ∀ p, s.workshop.LandedAt p t.request phase

/-- No task has a run that leaves what cannot be removed. -/
def Session.Removable (s : Session) : Prop :=
  ∀ t ∈ s.tasks, ∀ phase, t.state.phase? = some phase → phase.Removable

/-- A task that stops leaves nothing more. -/
theorem Session.at?_stop {s : Session} (settled : s.Settled) (removable : s.Removable) (k : Nat)
    (p : Place) : (s.stop k).workshop.machine.at? p = s.workshop.machine.at? p := by
  unfold stop
  split
  · rename_i t found
    have member := mem_of_task? found
    unfold stopTask
    split
    · rename_i phase stopping
      change (s.workshop.abandon t.request phase).machine.at? p = s.workshop.machine.at? p
      unfold Workshop.abandon
      split
      · rename_i host retried c there
        have landed := settled t member _ stopping _ host retried c there rfl rfl
        exact landed.at?_drop (removable t member _ (by rw [stopping]; rfl) retried c rfl) p
      · rfl
    · rfl
  · rfl

namespace Moment

variable {m : Moment} {n : Nat} {r : Request} {host : Host} {phase : Phase}

/-- The request in flight, and how far it has come. -/
structure InFlight (m : Moment) (n : Nat) (r : Request) (phase : Phase) : Prop where
  ordered : m.session.Numbered ∧ m.session.InPlace
  place : m.session.inFlight = some n
  standing : m.standing? (.task n) = some (r, phase)

/-- A task at work is the one in flight. -/
theorem InFlight.of_live (h : m.InFlight n r phase) {t : Task} (member : t ∈ m.session.tasks)
    {phase' : Phase} (live : t.state = .live phase') :
    phase'.isDone = true ∨ (t.ticket = n ∧ t.request = r ∧ phase' = phase) := by
  cases done : phase'.isDone with
  | true => exact .inl rfl
  | false =>
    have atWork : t.state.isAtWork = true := by simp [live, TaskState.isAtWork, done]
    have place := h.ordered.2.found t member atWork
    rw [h.place] at place
    obtain rfl := Option.some.inj place
    have same := standing?_task.2 ⟨t, h.ordered.1.task?_eq member, rfl, live⟩
    obtain ⟨rfl, rfl⟩ := Prod.mk.inj (Option.some.inj (h.standing.symm.trans same))
    exact .inr ⟨rfl, rfl, rfl⟩

/-- The runtime lets the request in flight go on, and no other. -/
theorem InFlight.workshop_aside (h : m.InFlight n r phase) {e : Event}
    (runtime : e.isRuntime = true) (step : e.isStep = true) (aside : m.takesTurn (.task n) e = false) :
    (m.react e).session.workshop = m.session.workshop := by
  cases e with
  | proceed k =>
    simp only [react, Session.proceed]
    cases found : m.session.task? k with
    | none => rfl
    | some t =>
      simp only [Session.advanceTask]
      cases state : t.state with
      | stopping phase' => rfl
      | superseded => rfl
      | live phase' =>
        have stuck : phase'.moves = false := by
          rcases h.of_live (Session.mem_of_task? found) state with done | ⟨own, -, rfl⟩
          · cases phase' <;> simp_all [Phase.isDone, Phase.moves]
          · obtain rfl : k = n := (Session.ticket_of_task? found).symm.trans own
            simpa [takesTurn, h.standing, Event.isStepOf] using aside
        change (m.session.workshop.advance t.request phase').2 = m.session.workshop
        rw [Workshop.advance_of_stuck _ _ stuck]
  | stop k => cases step
  | wait time => cases step
  | land => cases step
  | _ => cases runtime

theorem InFlight.quiet_aside (h : m.InFlight n r phase) {e : Event} (runtime : e.isRuntime = true)
    (aside : m.takesTurn (.task n) e = false) :
    m.session.workshop.Quiet (m.react e).session.workshop := by
  cases step : e.isStep with
  | false => exact m.quiet_react step
  | true =>
    rw [h.workshop_aside runtime step aside]
    exact .refl _

theorem InFlight.residents_aside (h : m.InFlight n r phase) {e : Event}
    (runtime : e.isRuntime = true) (aside : m.takesTurn (.task n) e = false) :
    (m.react e).session.workshop.residents = m.session.workshop.residents ∧
      (m.react e).session.workshop.made = m.session.workshop.made := by
  cases step : e.isStep with
  | true =>
    rw [h.workshop_aside runtime step aside]
    exact ⟨rfl, rfl⟩
  | false =>
    refine m.residents_aside step (fun slot x => ?_) ?_ <;> rintro rfl <;> cases runtime

/-- **What the runtime does aside from the request in flight** changes the files nowhere but at the
place of the run for which the request waits. -/
theorem InFlight.at?_aside (h : m.InFlight n r phase) (settled : m.session.Settled)
    (removable : m.session.Removable)
    (found : m.session.workshop.hosts[r.host]? = some host) {e : Event}
    (runtime : e.isRuntime = true) (aside : m.takesTurn (.task n) e = false) (p : Place) :
    (m.react e).session.workshop.machine.at? p = m.session.workshop.machine.at? p ∨
      ∃ retried c, phase = .compiling retried c ∧ host.bench.placeOf c.unit = p := by
  cases e with
  | stop k => exact .inl (Session.at?_stop settled removable k p)
  | proceed k =>
    rw [h.workshop_aside runtime rfl aside]
    exact .inl rfl
  | wait time => exact .inl rfl
  | land =>
    rw [or_iff_not_imp_right]
    intro elsewhere
    refine Session.at?_land fun t member phase' stands => ?_
    cases state : t.state with
    | superseded => simp [state, TaskState.phase?] at stands
    | stopping phase'' =>
      obtain rfl : phase'' = phase' := by simpa [state, TaskState.phase?] using stands
      exact settled t member _ state p
    | live phase'' =>
      obtain rfl : phase'' = phase' := by simpa [state, TaskState.phase?] using stands
      rintro host' retried c found' rfl own
      rcases h.of_live member state with done | ⟨-, rfl, rfl⟩
      · cases done
      · obtain rfl := Option.some.inj (found.symm.trans found')
        exact absurd ⟨retried, c, rfl, own⟩ elsewhere
  | _ => cases runtime

/-- An event of the runtime leaves it to orders who is in flight. -/
theorem inFlight_react_of_isRuntime (m : Moment) {e : Event} (runtime : e.isRuntime = true) :
    (m.react e).session.inFlight = m.session.inFlight := by
  rw [inFlight_react]
  cases e <;> first | rfl | cases runtime

/-- The request in flight was so before an event of the runtime. -/
theorem InFlight.before {e : Event} (runtime : e.isRuntime = true)
    (ordered : m.session.Numbered ∧ m.session.InPlace) (old : n < m.session.submitted)
    {phase' : Phase} (h : (m.react e).InFlight n r phase') :
    ∃ phase, m.InFlight n r phase ∧ m.Goes e (.task n) r phase phase' := by
  obtain ⟨phase, standing, goes⟩ := goes_before (c := .task n) ordered.1 old h.standing
  exact ⟨phase, ⟨ordered, (m.inFlight_react_of_isRuntime runtime).symm.trans h.place, standing⟩,
    goes⟩

/-- The order to stop changes nothing in the workshop. -/
theorem workshop_order (m : Moment) {e : Event} (order : e.isOrder = true) :
    (m.react e).session.workshop = m.session.workshop := by
  cases e <;> first | rfl | cases order

/-- The order to stop is all that tells a task to stop. -/
theorem stopping_of_nextState {e : Event} {t : Task} {phase : Phase}
    (stopping : m.nextState e t = .stopping phase) :
    t.state = .stopping phase ∨ e.isOrder = true ∧ t.state = .live phase := by
  have told (after : t.state.stop = .stopping phase) :
      t.state = .stopping phase ∨ t.state = .live phase := by
    cases before : t.state with
    | live phase' =>
      rw [before, TaskState.stop] at after
      split at after
      · cases after
      · exact .inr (congrArg _ (TaskState.stopping.inj after))
    | stopping phase' =>
      rw [before] at after
      exact .inl after
    | superseded =>
      rw [before] at after
      cases after
  have order (orders : e.isOrder = true)
      (after : (if m.session.inFlight = some t.ticket then t.state.stop else t.state) =
        .stopping phase) :
      t.state = .stopping phase ∨ e.isOrder = true ∧ t.state = .live phase := by
    split at after
    · exact (told after).imp_right fun live => ⟨orders, live⟩
    · exact .inl after
  cases e with
  | submit expression label => exact order rfl stopping
  | cancel => exact order rfl stopping
  | stop k =>
    simp only [nextState] at stopping
    split at stopping
    · cases before : t.state <;> simp [before, TaskState.halt] at stopping
    · exact .inl stopping
  | proceed k =>
    simp only [nextState] at stopping
    split at stopping
    · cases before : t.state <;> simp [before, Session.stepState] at stopping
      exact .inl (congrArg _ stopping)
    · exact .inl stopping
  | _ => exact .inl stopping

/-- A task that is told to stop was so before, or was told to in the last event. -/
theorem stopping_before (numbered : m.session.Numbered) (e : Event) {t : Task}
    (member : t ∈ (m.react e).session.tasks) {phase : Phase}
    (stopping : t.state = .stopping phase) :
    ∃ u ∈ m.session.tasks, t.request = u.request ∧
      (u.state = .stopping phase ∨ e.isOrder = true ∧ u.state = .live phase) := by
  rcases mem_react numbered e member with ⟨_, _, -, rfl⟩ | ⟨u, there, -, request, state⟩
  · cases stopping
  · exact ⟨u, there, request, stopping_of_nextState (state.symm.trans stopping)⟩

/-- The file of a task's run has a name that was given. -/
theorem named_of_task (ledger : m.Ledger) {t : Task} (member : t ∈ m.session.tasks)
    {retried : UInt32} {c : Compilation} (stands : t.state.phase? = some (.compiling retried c))
    (found : m.session.workshop.hosts[t.request.host]? = some host) :
    m.session.workshop.machine.Named m.session.workshop.names
      (host.bench.placeOf c.unit).file := by
  have named := Machine.Ledger.named ledger ⟨host.bench.scratch, c, true⟩
    (job_of_task member stands found)
  exact named

/-! ### Stopping in time -/

/-- Nothing comes of the runs of tasks that are told to stop: a task stops before the run is over for
which it waits, or that run leaves nothing, unless it was over at first. -/
def Timely (m : Moment) (later : List Event) : Prop :=
  ∀ before after, later = before ++ after → ∀ t ∈ (m.after before).session.tasks, ∀ retried c,
    t.state = .stopping (.compiling retried c) →
      c.isOver m.session.workshop.machine.clock = true ∨
        c.leftAt (m.after before).session.workshop.machine.clock = none

theorem Timely.before {later further : List Event} (h : m.Timely (later ++ further)) :
    m.Timely later := by
  rintro before after rfl
  exact h before (after ++ further) (by simp)

theorem Timely.rest (later : List Event) {further : List Event}
    (h : m.Timely (later ++ further))
    (clock : m.session.workshop.machine.clock ≤
      (m.after later).session.workshop.machine.clock) : (m.after later).Timely further := by
  rintro before after rfl t member retried c stopping
  rw [← after_append] at member ⊢
  exact (h (later ++ before) after (by simp) t member retried c stopping).imp_left
    (Compilation.isOver_mono clock)

/-- No task stops, and no time passes, when what runs have left is put in its place. -/
theorem Timely.land {later : List Event} (h : m.Timely later) : m.Timely (later ++ [.land]) := by
  intro before after same t member retried c stopping
  rcases List.eq_nil_or_concat after with rfl | ⟨rest, e, rfl⟩
  · rw [List.append_nil] at same
    subst same
    rw [after_append, after_cons, after_nil, react] at member ⊢
    rw [Session.clock_land]
    exact h later [] (by simp) t member retried c stopping
  · rw [List.concat_eq_append, ← List.append_assoc] at same
    exact h before rest (List.append_inj' same rfl).1 t member retried c stopping

/-- Whether a task is told to stop and waits for a run that got over between two times and left
something. -/
def isLate (since now : Nat) : TaskState → Bool
  | .stopping (.compiling _ c) => !c.isOver since && (c.leftAt now).isSome
  | _ => false

theorem timely_iff {later : List Event} :
    m.Timely later ↔ ∀ before ∈ later.inits, ∀ t ∈ (m.after before).session.tasks,
      isLate m.session.workshop.machine.clock (m.after before).session.workshop.machine.clock
        t.state = false := by
  constructor
  · intro timely before among t member
    obtain ⟨after, same⟩ := (List.mem_inits ..).1 among
    unfold isLate
    split
    · rename_i retried c stopping
      rcases timely before after same.symm t member retried c stopping with since | nothing
      · rw [since]
        rfl
      · rw [nothing, Option.isSome_none, Bool.and_false]
    · rfl
  · rintro timely before after rfl t member retried c stopping
    have since := timely before ((List.mem_inits ..).2 (List.prefix_append ..)) t member
    rw [stopping, isLate, Bool.and_eq_false_iff] at since
    exact since.imp (by simp) (by simp)

instance (m : Moment) (later : List Event) : Decidable (m.Timely later) :=
  decidable_of_iff _ timely_iff.symm

/-! ### From an order on -/

variable {e : Event}

/-- Where tasks only stop, no instance is made or goes, and nothing is asked of the compiler. -/
theorem quiet_halts {halts : List Event} (halting : ∀ e ∈ halts, e.isHalt = true) :
    (m.after halts).session.workshop.residents = m.session.workshop.residents ∧
      (m.after halts).session.workshop.made = m.session.workshop.made ∧
        m.session.workshop.Quiet (m.after halts).session.workshop := by
  induction halts generalizing m with
  | nil => exact ⟨rfl, rfl, .refl _⟩
  | cons e halts ih =>
    have halt := halting e List.mem_cons_self
    have step := Event.isStep_of_isHalt halt
    obtain ⟨residents, made, quiet⟩ :=
      ih (m := m.react e) fun f member => halting f (List.mem_cons_of_mem e member)
    obtain ⟨residents', made'⟩ := m.residents_aside step
      (by rintro slot x rfl; cases halt) (by rintro rfl; cases halt)
    exact ⟨residents.trans residents', made.trans made', (m.quiet_react step).trans quiet⟩

/-- Nobody waits for a run but to stop. -/
structure Halting (m : Moment) : Prop where
  numbered : m.session.Numbered
  ready : m.session.workshop.Ready
  ledger : m.Ledger
  bound : m.session.workshop.machine.attempts.length ≤ UInt64.size
  settled : m.session.Settled
  removable : m.session.Removable
  idle : ∀ t ∈ m.session.tasks, ∀ retried c, t.state ≠ .live (.compiling retried c)

namespace Halting

/-- How a task stands that does not go on. -/
theorem state_before (h : m.Halting) (halt : e.isHalt = true) {t : Task}
    (member : t ∈ (m.react e).session.tasks) :
    ∃ u ∈ m.session.tasks, t.request = u.request ∧
      (t.state = u.state ∨ t.state = .superseded) := by
  rcases mem_react h.numbered e member with
    ⟨expression, label, rfl, -⟩ | ⟨u, there, -, request, state⟩
  · cases halt
  · refine ⟨u, there, request, ?_⟩
    cases e with
    | stop k =>
      simp only [nextState] at state
      split at state
      · cases before : u.state with
        | stopping phase =>
          rw [before] at state
          exact .inr state
        | _ =>
          rw [before] at state
          exact .inl state
      · exact .inl state
    | wait time => exact .inl state
    | land => exact .inl state
    | _ => cases halt

/-- **Where tasks only stop the files stay.** -/
theorem at?_react (h : m.Halting) (halt : e.isHalt = true) (p : Place) :
    (m.react e).session.workshop.machine.at? p = m.session.workshop.machine.at? p := by
  cases e with
  | stop k => exact Session.at?_stop h.settled h.removable k p
  | wait time => rfl
  | land =>
    refine Session.at?_land fun t member phase stands => ?_
    cases state : t.state with
    | superseded => simp [state, TaskState.phase?] at stands
    | stopping phase' =>
      obtain rfl : phase' = phase := by simpa [state, TaskState.phase?] using stands
      exact h.settled t member _ state p
    | live phase' =>
      obtain rfl : phase' = phase := by simpa [state, TaskState.phase?] using stands
      rintro host retried c found rfl own
      exact absurd state (h.idle t member retried c)
  | _ => cases halt

theorem bound_react (h : m.Halting) (halt : e.isHalt = true) :
    (m.react e).session.workshop.machine.attempts.length ≤ UInt64.size := by
  rw [(m.quiet_react (Event.isStep_of_isHalt halt)).machine.attempts]
  exact h.bound

theorem react (h : m.Halting) (halt : e.isHalt = true) (timely : m.Timely [e]) :
    (m.react e).Halting where
  numbered := numbered_react h.numbered e
  ready := (steady_react h.ready e).ready h.ready
  ledger := ledger_react h.ledger h.numbered h.ready e (h.bound_react halt)
  bound := h.bound_react halt
  settled := by
    intro t member phase stopping p host retried c found compiling own
    subst compiling own
    rcases timely [e] [] rfl t member retried c stopping with since | nothing
    · obtain ⟨u, there, request, same | superseded⟩ := h.state_before halt member
      · rw [(steady_react h.ready e).hosts, request] at found
        have landed := h.settled u there _ (same.symm.trans stopping) _ host retried c found rfl rfl
        exact landed.later (fun _ => since) (sameRooms_react h.ready (by rintro rfl; cases halt) _)
          (h.at?_react halt _)
      · rw [superseded] at stopping
        cases stopping
    · have job := job_of_task member (by rw [stopping]; rfl) found
      have ledger := ledger_react h.ledger h.numbered h.ready e (h.bound_react halt)
      exact Bench.landed_of_vacant nothing (Machine.Ledger.vacant_of_leftAt ledger job nothing)
  removable := by
    intro t member phase stands
    obtain ⟨u, there, -, same | superseded⟩ := h.state_before halt member
    · exact h.removable u there phase (same ▸ stands)
    · rw [superseded] at stands
      cases stands
  idle := by
    intro t member retried c live
    obtain ⟨u, there, -, same | superseded⟩ := h.state_before halt member
    · exact h.idle u there retried c (same.symm.trans live)
    · rw [superseded] at live
      cases live

/-- **The files stay where tasks only stop**, and do so in time. -/
theorem after (h : m.Halting) {halts : List Event} (halting : ∀ e ∈ halts, e.isHalt = true)
    (timely : m.Timely halts) (p : Place) :
    (m.after halts).session.workshop.machine.at? p = m.session.workshop.machine.at? p := by
  induction halts generalizing m with
  | nil => rfl
  | cons e halts ih =>
    have halt := halting e List.mem_cons_self
    have clock := (steady_react h.ready e).machine.clock
    have files := ih (h.react halt timely.before)
      (fun f member => halting f (List.mem_cons_of_mem e member)) (timely.rest [e] clock)
    exact files.trans (h.at?_react halt p)

end Halting

/-- How a task stands after an order. -/
theorem InFlight.order_before (h : m.InFlight n r phase) (order : e.isOrder = true) {t : Task}
    (member : t ∈ (m.react e).session.tasks) :
    t.state = .live .queued ∨ ∃ u ∈ m.session.tasks, t.request = u.request ∧
      ((t.state = u.state ∧ ∀ phase', u.state = .live phase' → phase'.isDone = true) ∨
        (u.state = .live phase ∧ u.request = r ∧ t.state = .stopping phase)) := by
  rcases mem_react h.ordered.1 e member with ⟨_, _, -, rfl⟩ | ⟨u, there, -, request, state⟩
  · exact .inl rfl
  · refine .inr ⟨u, there, request, ?_⟩
    have next : t.state = if m.session.inFlight = some u.ticket then u.state.stop else u.state := by
      rw [state]
      cases e <;> first | rfl | cases order
    rw [h.place] at next
    cases before : u.state with
    | live phase' =>
      rw [before] at next
      cases done : phase'.isDone with
      | true =>
        refine .inl ⟨?_, fun _ same => TaskState.live.inj same ▸ done⟩
        rw [next, TaskState.stop, if_pos done, ite_self]
      | false =>
        rcases h.of_live there before with done' | ⟨own, request', rfl⟩
        · rw [done] at done'
          cases done'
        · rw [own, if_pos rfl, TaskState.stop, done] at next
          exact .inr ⟨rfl, request', next⟩
    | stopping phase' =>
      rw [before] at next
      refine .inl ⟨next.trans (ite_self _), ?_⟩
      intro _ live
      cases live
    | superseded =>
      rw [before] at next
      refine .inl ⟨next.trans (ite_self _), ?_⟩
      intro _ live
      cases live

/-- **After an order nobody waits but to stop.** -/
theorem InFlight.halting (h : m.InFlight n r phase) (ready : m.session.workshop.Ready)
    (ledger : m.Ledger) (bound : m.session.workshop.machine.attempts.length ≤ UInt64.size)
    (settled : m.session.Settled) (removable : m.session.Removable)
    (early : ∀ retried c, phase = .compiling retried c →
      c.leftAt m.session.workshop.machine.clock = none)
    (order : e.isOrder = true) : (m.react e).Halting where
  numbered := numbered_react h.ordered.1 e
  ready := (m.workshop_order order).symm ▸ ready
  ledger := ledger_react ledger h.ordered.1 ready e ((m.workshop_order order).symm ▸ bound)
  bound := (m.workshop_order order).symm ▸ bound
  settled := by
    intro t member phase' stopping p
    rw [m.workshop_order order]
    rcases h.order_before order member with queued | ⟨u, there, request, ⟨same, -⟩ | ⟨live, -, told⟩⟩
    · rw [queued] at stopping
      cases stopping
    · rw [request]
      exact settled u there phase' (same.symm.trans stopping) p
    · obtain rfl := TaskState.stopping.inj (told.symm.trans stopping)
      rintro host retried c found rfl rfl
      have nothing := early retried c rfl
      have job := job_of_task there (by rw [live]; rfl) (request ▸ found)
      exact Bench.landed_of_vacant nothing (Machine.Ledger.vacant_of_leftAt ledger job nothing)
  removable := by
    intro t member phase' stands
    rcases h.order_before order member with queued | ⟨u, there, -, ⟨same, -⟩ | ⟨live, -, told⟩⟩
    · rw [queued] at stands
      obtain rfl := Option.some.inj stands
      exact fun _ _ compiling => nomatch compiling
    · exact removable u there phase' (same ▸ stands)
    · rw [told] at stands
      obtain rfl := Option.some.inj stands
      exact removable u there phase (by rw [live]; rfl)
  idle := by
    intro t member retried c live
    rcases h.order_before order member with queued | ⟨u, there, -, ⟨same, done⟩ | ⟨-, -, told⟩⟩
    · rw [queued] at live
      cases live
    · cases done _ (same.symm.trans live)
    · rw [told] at live
      cases live

/-- An order tells the request in flight to stop. -/
theorem InFlight.told (h : m.InFlight n r phase) (unfinished : phase.isDone = false)
    (order : e.isOrder = true) :
    ∃ t, (m.react e).session.task? n = some t ∧ t.state = .stopping phase := by
  obtain ⟨t, found, -, live⟩ := standing?_task.1 h.standing
  have background : e.isBackground = true := by simp [Event.isBackground, order]
  obtain ⟨t', found', -, state⟩ := task?_react h.ordered.1 background found
  refine ⟨t', found', ?_⟩
  have place : m.session.inFlight = some t.ticket := by
    rw [h.place, Session.ticket_of_task? found]
  have stopped : t.state.stop = .stopping phase := by
    rw [live, TaskState.stop, unfinished]
    rfl
  rw [state]
  cases e with
  | submit expression label => rw [nextState, if_pos place, stopped]
  | cancel => rw [nextState, if_pos place, stopped]
  | _ => cases order

end Moment

end Plotter
