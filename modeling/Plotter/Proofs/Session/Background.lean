import Plotter.Proofs.Session.Bursts
import Plotter.Proofs.Session.Tenants

/-!
# What goes on in the background

Every background request has a task. The runtime lets tasks go on, and stops those that were told to
stop. None of this is the user's doing, and it leaves alone what is the user's own: the slots with
their handles, the hosts that are held, and the outcomes of the requests that are finished. An order
to stop does so as well.

## What is proved

* `Workshop.callAll_congr`: what handles return depends on the instances alone.
* `Moment.keeps_after`: what goes on in the background keeps what is the user's own.
* `Moment.superseded_of_stop`: a task that was told to stop is superseded once it has stopped.
* `Moment.handle_null`: a request that is superseded in the end never has a handle.
-/

namespace Plotter

/-- Whether an event is the runtime's doing: tasks stop and go on, runs end, and time passes. -/
def Event.isRuntime : Event → Bool
  | .stop _ | .proceed _ | .wait _ | .land => true
  | _ => false

/-- Whether an event is the runtime's doing, and no task goes on in it. -/
def Event.isHalt : Event → Bool
  | .stop _ | .wait _ | .land => true
  | _ => false

theorem Event.isRuntime_of_isHalt {e : Event} (halt : e.isHalt = true) : e.isRuntime = true := by
  cases e <;> first | rfl | cases halt

theorem Event.isStep_of_isHalt {e : Event} (halt : e.isHalt = true) : e.isStep = false := by
  cases e <;> first | rfl | cases halt

theorem Event.isRuntime_of_isOrder {e : Event} (order : e.isOrder = true) :
    e.isRuntime = false := by
  cases e with
  | submit expression label => rfl
  | cancel => rfl
  | _ => cases order

/-- Whether an event is the runtime's doing or an order to stop. -/
def Event.isBackground (e : Event) : Bool := e.isRuntime || e.isOrder

/-- What handles return depends on the instances that are there. -/
theorem Workshop.callAll_congr {w w' : Workshop} (same : w'.residents = w.residents)
    (handle : Handle) (xs : List Float) :
    (w'.callAll handle xs).1 = (w.callAll handle xs).1 := by
  induction xs generalizing w w' with
  | nil => rfl
  | cons x xs ih =>
    have one : (w'.call handle x).1 = (w.call handle x).1 ∧
        (w'.call handle x).2.residents = (w.call handle x).2.residents := by
      cases handle with
      | null => exact ⟨rfl, same⟩
      | compiled number unit =>
        simp only [call, resident?, same]
        split
        · exact ⟨rfl, same⟩
        · exact ⟨rfl, rfl⟩
    rw [callAll_cons, callAll_cons, one.1, ih one.2]

namespace Moment

variable {m : Moment} {n : Nat}

/-! ### Tasks in the background -/

theorem numbered_later (numbered : m.session.Numbered) (events : List Event) :
    (m.after events).session.Numbered :=
  after_induction (P := fun m => m.session.Numbered) (fun _ e h => numbered_react h e) numbered
    events

/-- No task is lost in the background. -/
theorem tickets_subset_react (numbered : m.session.Numbered) {e : Event}
    (background : e.isBackground = true) :
    m.session.tasks.map Task.ticket ⊆ (m.react e).session.tasks.map Task.ticket := by
  have mapped {s : Session} {f : Task → Task} (tasks : s.tasks = m.session.tasks.map f)
      (ticket : ∀ t, (f t).ticket = t.ticket) :
      m.session.tasks.map Task.ticket ⊆ s.tasks.map Task.ticket := by
    rw [tasks, List.map_map]
    exact (List.map_congr_left fun t _ => (ticket t).symm) ▸ List.Subset.refl _
  cases e with
  | submit expression label =>
    simp only [react, Session.tickets_submit]
    exact List.subset_append_left ..
  | cancel =>
    simp only [react, Session.cancel, Session.tickets_stopInFlight]
    exact List.Subset.refl _
  | stop k =>
    refine mapped (numbered.tasks_stop k) fun t => ?_
    split <;> rfl
  | proceed k =>
    refine mapped (numbered.tasks_proceed k) fun t => ?_
    split <;> rfl
  | wait time => exact List.Subset.refl _
  | land => exact List.Subset.refl _
  | _ => cases background

theorem task?_react (numbered : m.session.Numbered) {e : Event} (background : e.isBackground = true)
    {t : Task} (found : m.session.task? n = some t) :
    ∃ t', (m.react e).session.task? n = some t' ∧ t'.request = t.request ∧
      t'.state = m.nextState e t := by
  have there : n ∈ m.session.tasks.map Task.ticket :=
    List.mem_map.2 ⟨t, Session.mem_of_task? found, Session.ticket_of_task? found⟩
  obtain ⟨t', -, -, found'⟩ := (numbered_react numbered e).task?_of_ticket
    (tickets_subset_react numbered background there)
  obtain ⟨u, before, request, state⟩ := task_before numbered e (numbered.lt_of_task? found) found'
  obtain rfl := Option.some.inj (found.symm.trans before)
  exact ⟨t', found', request, state⟩

/-- An outcome stays until it is taken. -/
theorem take_react (numbered : m.session.Numbered) {e : Event} (background : e.isBackground = true)
    {outcome : Outcome} (taken : (m.session.take n).1 = some outcome) :
    ((m.react e).session.take n).1 = some outcome := by
  have same {outcome' : Outcome} (later : ((m.react e).session.take n).1 = some outcome') :
      outcome' = outcome := outcome_after numbered taken [e] later
  rw [take_fst] at taken
  obtain ⟨t, found, own⟩ := Option.bind_eq_some_iff.1 taken
  obtain ⟨t', found', -, state⟩ := task?_react numbered background found
  have finished : t'.state.isFinished = true := by
    have before : t.state.isFinished = true := by
      rw [← isSome_outcome?, own]
      rfl
    rwa [state, nextState_of_isFinished before]
  obtain ⟨outcome', own'⟩ := Option.isSome_iff_exists.1 ((isSome_outcome? t').trans finished)
  have later : ((m.react e).session.take n).1 = some outcome' := by
    rw [take_fst, found']
    exact own'
  exact later.trans (congrArg some (same later))

/-! ### What is the user's own -/

/-- From one moment to another, the user's slots and hosts stayed, and so did the outcomes of the
background requests that were finished. -/
structure Keeps (m m' : Moment) : Prop where
  slots : m'.session.slots = m.session.slots
  letGo : m'.session.letGo = m.session.letGo
  outcomes : ∀ k outcome, (m.session.take k).1 = some outcome →
    (m'.session.take k).1 = some outcome

theorem Keeps.refl (m : Moment) : Keeps m m := ⟨rfl, rfl, fun _ _ taken => taken⟩

theorem Keeps.trans {m₁ m₂ m₃ : Moment} (h₁ : Keeps m₁ m₂) (h₂ : Keeps m₂ m₃) : Keeps m₁ m₃ where
  slots := h₂.slots.trans h₁.slots
  letGo := h₂.letGo.trans h₁.letGo
  outcomes := fun k outcome taken => h₂.outcomes k outcome (h₁.outcomes k outcome taken)

theorem keeps_react (numbered : m.session.Numbered) {e : Event}
    (background : e.isBackground = true) : Keeps m (m.react e) where
  slots := by
    cases e with
    | stop k => exact slots_stop m.session k
    | proceed k => exact slots_proceed m.session k
    | submit => rfl
    | cancel => rfl
    | wait => rfl
    | land => rfl
    | _ => cases background
  letGo := by
    cases e with
    | stop k =>
      simp only [react, Session.stop]
      split
      · unfold Session.stopTask
        split <;> rfl
      · rfl
    | proceed k =>
      simp only [react, Session.proceed]
      split
      · unfold Session.advanceTask
        split <;> rfl
      · rfl
    | submit => rfl
    | cancel => rfl
    | wait => rfl
    | land => rfl
    | _ => cases background
  outcomes := fun _ _ taken => take_react numbered background taken

/-- What goes on in the background leaves to the user what is the user's own. -/
theorem keeps_after (numbered : m.session.Numbered) {events : List Event}
    (background : ∀ e ∈ events, e.isBackground = true) : Keeps m (m.after events) := by
  induction events generalizing m with
  | nil => exact .refl m
  | cons e events ih =>
    exact (keeps_react numbered (background e List.mem_cons_self)).trans
      (ih (numbered_react numbered e) fun f member => background f (List.mem_cons_of_mem e member))

/-! ### A task that is told to stop -/

/-- A task that was told to stop is superseded once it has. -/
theorem superseded_of_stop (numbered : m.session.Numbered) {halts : List Event}
    (halting : ∀ e ∈ halts, e.isHalt = true) (stops : .stop n ∈ halts) {t : Task}
    (found : m.session.task? n = some t) (stopping : ∃ phase, t.state = .stopping phase) :
    ((m.after halts).session.take n).1 = some .superseded := by
  have background (e : Event) (member : e ∈ halts) : e.isBackground = true := by
    simp [Event.isBackground, Event.isRuntime_of_isHalt (halting e member)]
  obtain ⟨phase, stopping⟩ := stopping
  induction halts generalizing m t with
  | nil => cases stops
  | cons e halts ih =>
    have later := fun f member => background f (List.mem_cons_of_mem e member)
    obtain ⟨t', found', -, state⟩ := task?_react numbered (background e List.mem_cons_self) found
    by_cases own : e = .stop n
    · subst own
      have superseded : t'.state = .superseded := by
        rw [state, nextState, if_pos (Session.ticket_of_task? found), stopping]
        rfl
      refine (keeps_after (numbered_react numbered _) later).outcomes n _ ?_
      rw [take_fst, found', Option.bind_some, Task.outcome?, superseded]
    · have stays : t'.state = .stopping phase := by
        rw [state, ← stopping]
        have halt := halting e List.mem_cons_self
        cases e with
        | stop k =>
          rw [nextState, if_neg]
          rintro rfl
          exact own (by rw [Session.ticket_of_task? found])
        | wait time => rfl
        | land => rfl
        | _ => cases halt
      have still := (List.mem_cons.1 stops).resolve_left (Ne.symm own)
      exact ih (numbered_react numbered e)
        (fun f member => halting f (List.mem_cons_of_mem e member)) still found' later stays

/-- A task that can only be superseded has no handle. -/
theorem handle_of_superseded {t : Task}
    (superseded : ∀ outcome, t.outcome? = some outcome → outcome = .superseded) :
    t.state.handle = .null := by
  cases state : t.state with
  | live phase =>
    cases phase with
    | done verdict =>
      have own : t.outcome? = some (.ready ⟨t.request.expression, verdict⟩) := by
        rw [Task.outcome?, state]
      cases superseded _ own
    | _ => rfl
  | _ => rfl

/-- A request that is superseded in the end has no handle, neither before nor after. -/
theorem handle_null (numbered : m.session.Numbered) {later : List Event}
    (superseded : ((m.after later).session.take n).1 = some .superseded) {events : List Event}
    (comparable : events <+: later ∨ later <+: events) {t : Task}
    (found : (m.after events).session.task? n = some t) : t.state.handle = .null := by
  refine handle_of_superseded fun outcome own => ?_
  have numbered' := numbered_later numbered
  have taken : ((m.after events).session.take n).1 = some outcome := by
    rw [take_fst, found, Option.bind_some, own]
  rcases comparable with ⟨rest, rfl⟩ | ⟨rest, rfl⟩
  · rw [after_append] at superseded
    exact (outcome_after (numbered' events) taken rest superseded).symm
  · rw [after_append] at taken
    exact outcome_after (numbered' later) superseded rest taken

end Moment

end Plotter
