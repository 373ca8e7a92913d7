import Plotter.Proofs.Session.Clients

/-!
# Newer requests supersede older ones

There is one place for a background request that is at work (`Session.inFlight`). It may hold the
ticket of a request that is finished, or none; but it never misses one that is at work, and it
never holds the ticket of a request that was told to stop (`Session.InPlace`). So an order to
stop, whether it is given by `Session.submit` or by `Session.cancel`, is given to the request at
work and to no other, and only the last request can be at work.

Whether a request is superseded is thus a matter of the orders that come after it: it is *cut
off* if it was not completed when the first order came that it could meet (`Moment.CutOff`).

## What is proved

* `Moment.inPlace_after`: the place is right at every moment.
* `Moment.supersession_exact`: at most one request is at work, the last; a request is superseded
  just in case it was cut off, and otherwise its outcome is what it computed; a request has one
  outcome, which is taken once; and `cancel` tells whether a request is at work.
-/

namespace Plotter

/-- Whether a background request comes in. -/
def Event.isSubmit : Event → Bool
  | .submit .. => true
  | _ => false

/-- Whether the request at work is told to stop. -/
def Event.isOrder : Event → Bool
  | .submit .. | .cancel => true
  | _ => false

namespace Session

/-- The place for the request at work is right: a task at work is in it, and what is in it is
the last request, not told to stop. -/
structure InPlace (s : Session) : Prop where
  found : ∀ t ∈ s.tasks, t.state.isAtWork = true → s.inFlight = some t.ticket
  last : ∀ n, s.inFlight = some n → n + 1 = s.submitted
  live : ∀ t ∈ s.tasks, s.inFlight = some t.ticket → ∃ phase, t.state = .live phase

variable {s : Session}

theorem InPlace.ticket_add_one (h : s.InPlace) {t : Task} (member : t ∈ s.tasks)
    (atWork : t.state.isAtWork = true) : t.ticket + 1 = s.submitted :=
  h.last _ (h.found t member atWork)

end Session

namespace TaskState

theorem isAtWork_stop (state : TaskState) : state.stop.isAtWork = false := by
  cases state with
  | live phase => cases done : phase.isDone <;> simp [stop, done, isAtWork]
  | stopping phase => rfl
  | superseded => rfl

/-- An order to stop comes too late for a request that is completed, and for no other. -/
theorem live_stop_iff {state : TaskState} :
    (∃ phase, state.stop = .live phase) ↔ ∃ verdict, state = .live (.done verdict) := by
  cases state with
  | live phase => cases phase <;> simp [stop, Phase.isDone]
  | stopping phase => simp [stop]
  | superseded => simp [stop]

theorem isAtWork_halt (state : TaskState) : state.halt.isAtWork = state.isAtWork := by
  cases state <;> rfl

end TaskState

/-- A request that is at its end stays there. -/
theorem Workshop.advance_done (w : Workshop) (r : Request) (verdict : Verdict) :
    w.advance r (.done verdict) = (.done verdict, w) :=
  w.advance_of_stuck r rfl

namespace Moment

variable {m : Moment}

/-! ### The place for the request at work -/

theorem inFlight_react (m : Moment) (e : Event) :
    (m.react e).session.inFlight =
      match e with
      | .submit .. => some m.session.submitted
      | .cancel => none
      | _ => m.session.inFlight := by
  cases e with
  | stop n =>
    simp only [react, Session.stop]
    split
    · unfold Session.stopTask
      split <;> rfl
    · rfl
  | proceed n =>
    simp only [react, Session.proceed]
    split
    · unfold Session.advanceTask
      split <;> rfl
    · rfl
  | collect n slot =>
    simp only [react, Session.collect_eq]
    split
    · cases slot <;> rfl
    · rfl
    · rfl
  | answer slot =>
    simp only [react]
    split
    · cases slot <;> rfl
    · rfl
  | ask r =>
    simp only [react]
    split <;> rfl
  | pursue =>
    simp only [react]
    split <;> rfl
  | forsake =>
    simp only [react]
    split <;> rfl
  | reclaim =>
    simp only [react]
    split <;> rfl
  | _ => rfl

/-- A task that is at work after an event was so before it, and was not told to stop. -/
theorem isAtWork_nextState {e : Event} {t : Task} (h : (m.nextState e t).isAtWork = true) :
    t.state.isAtWork = true ∧ ¬(e.isOrder = true ∧ m.session.inFlight = some t.ticket) := by
  cases e with
  | submit expression label =>
    simp only [nextState] at h
    split at h
    · simp [TaskState.isAtWork_stop] at h
    · rename_i elsewhere
      exact ⟨h, fun order => elsewhere order.2⟩
  | cancel =>
    simp only [nextState] at h
    split at h
    · simp [TaskState.isAtWork_stop] at h
    · rename_i elsewhere
      exact ⟨h, fun order => elsewhere order.2⟩
  | stop n =>
    simp only [nextState] at h
    refine ⟨?_, by simp [Event.isOrder]⟩
    split at h
    · rwa [TaskState.isAtWork_halt] at h
    · exact h
  | proceed n =>
    simp only [nextState] at h
    refine ⟨?_, by simp [Event.isOrder]⟩
    split at h
    · cases state : t.state with
      | live phase =>
        cases phase with
        | done verdict =>
          simp [Session.stepState, state, Workshop.advance_done, TaskState.isAtWork, Phase.isDone] at h
        | _ => rfl
      | stopping phase => simp [Session.stepState, state, TaskState.isAtWork] at h
      | superseded => simp [Session.stepState, state, TaskState.isAtWork] at h
    · exact h
  | _ => exact ⟨h, by simp [Event.isOrder]⟩

/-- A task that was not told to stop is so after an event, unless the event gave it the order. -/
theorem live_nextState {e : Event} {t : Task} {phase : Phase} (live : t.state = .live phase)
    (unordered : e.isOrder = true → m.session.inFlight ≠ some t.ticket) :
    ∃ phase', m.nextState e t = .live phase' := by
  cases e with
  | submit expression label => exact ⟨phase, by simp [nextState, unordered rfl, live]⟩
  | cancel => exact ⟨phase, by simp [nextState, unordered rfl, live]⟩
  | stop n =>
    refine ⟨phase, ?_⟩
    simp only [nextState, live]
    split <;> rfl
  | proceed n =>
    simp only [nextState, Session.stepState, live]
    split
    · exact ⟨_, rfl⟩
    · exact ⟨phase, rfl⟩
  | _ => exact ⟨phase, live⟩

theorem inPlace_react (numbered : m.session.Numbered) (place : m.session.InPlace) (e : Event) :
    (m.react e).session.InPlace where
  found := by
    intro t member atWork
    rcases mem_react numbered e member with
      ⟨expression, label, rfl, rfl⟩ | ⟨u, there, ticket, -, state⟩
    · exact inFlight_react m _
    · rw [state] at atWork
      obtain ⟨before, unordered⟩ := isAtWork_nextState atWork
      have place' := place.found u there before
      rw [inFlight_react, ← ticket]
      cases e with
      | submit expression label => exact absurd ⟨rfl, place'⟩ unordered
      | cancel => exact absurd ⟨rfl, place'⟩ unordered
      | _ => exact place'
  last := by
    intro n inFlight
    rw [inFlight_react] at inFlight
    rw [submitted_react]
    cases e with
    | submit expression label => simpa using inFlight.symm
    | cancel => simp at inFlight
    | _ => exact place.last n inFlight
  live := by
    intro t member inFlight
    rcases mem_react numbered e member with
      ⟨expression, label, rfl, rfl⟩ | ⟨u, there, ticket, -, state⟩
    · exact ⟨.queued, rfl⟩
    · rw [inFlight_react, ← ticket] at inFlight
      have before : e.isOrder = false ∧ m.session.inFlight = some u.ticket := by
        cases e with
        | submit expression label =>
          have below := numbered.below u there
          exact absurd (Option.some.inj inFlight).symm (Nat.ne_of_lt below)
        | cancel => simp at inFlight
        | _ => exact ⟨rfl, inFlight⟩
      obtain ⟨phase, live⟩ := place.live u there before.2
      obtain ⟨phase', live'⟩ := live_nextState (m := m) (e := e) live (by simp [before.1])
      exact ⟨phase', state.trans live'⟩

theorem ordered_after {m : Moment} (h : m.session.Numbered ∧ m.session.InPlace)
    (events : List Event) :
    (m.after events).session.Numbered ∧ (m.after events).session.InPlace :=
  after_induction (P := fun m => m.session.Numbered ∧ m.session.InPlace)
    (fun _ e h => ⟨numbered_react h.1 e, inPlace_react h.1 h.2 e⟩) h events

/-- The place for the request at work is right at every moment. -/
theorem inPlace_after (w : Workshop) (events : List Event) :
    ((first w).after events).session.InPlace := by
  refine (ordered_after ⟨numbered_after w [], ?_⟩ events).2
  exact ⟨by simp [first], by simp [first], by simp [first]⟩

/-! ### What cuts a request off -/

/-- A background request is completed. -/
def Completed (m : Moment) (n : Nat) : Prop :=
  ∃ r verdict, m.standing? (.task n) = some (r, .done verdict)

/-- A background request that was the last at a moment is cut off by the events after it: when
the next request came in, or when a cancellation came before that, it was not completed. -/
def CutOff (m : Moment) (n : Nat) (later : List Event) : Prop :=
  ∃ before order after, later = before ++ order :: after ∧
    (∀ e ∈ before, e.isSubmit = false) ∧ order.isOrder = true ∧ ¬(m.after before).Completed n

/-- One event more cuts a request off if it is an order that could. -/
theorem cutOff_concat {m : Moment} {n : Nat} {later : List Event} {e : Event} :
    m.CutOff n (later ++ [e]) ↔
      m.CutOff n later ∨
        (∀ e ∈ later, e.isSubmit = false) ∧ e.isOrder = true ∧ ¬(m.after later).Completed n := by
  constructor
  · rintro ⟨before, order, after, same, unsubmitted, isOrder, uncompleted⟩
    rcases List.eq_nil_or_concat after with rfl | ⟨after', last, rfl⟩
    · obtain ⟨rfl, single⟩ := List.append_inj' same rfl
      obtain rfl := List.singleton_inj.1 single
      exact .inr ⟨unsubmitted, isOrder, uncompleted⟩
    · rw [List.concat_eq_append, ← List.cons_append, ← List.append_assoc] at same
      obtain ⟨rfl, -⟩ := List.append_inj' same rfl
      exact .inl ⟨before, order, after', rfl, unsubmitted, isOrder, uncompleted⟩
  · rintro (⟨before, order, after, rfl, unsubmitted, isOrder, uncompleted⟩ |
      ⟨unsubmitted, isOrder, uncompleted⟩)
    · exact ⟨before, order, after ++ [e], by simp, unsubmitted, isOrder, uncompleted⟩
    · exact ⟨later, e, [], rfl, unsubmitted, isOrder, uncompleted⟩

theorem submitted_eq_of_unsubmitted (m : Moment) (later : List Event)
    (h : (m.after later).session.submitted = m.session.submitted) :
    ∀ e ∈ later, e.isSubmit = false := by
  induction later generalizing m with
  | nil => simp
  | cons e later ih =>
    have step := submitted_react m e
    have rest := submitted_le (m.react e) later
    rw [after_cons] at h
    have other : e.isSubmit = false := by
      cases e with
      | submit expression label =>
        simp only [if_true] at step
        omega
      | _ => rfl
    have same : (m.react e).session.submitted = m.session.submitted := by
      cases e <;> simp_all [Event.isSubmit]
    intro f member
    rcases List.mem_cons.1 member with rfl | member
    · exact other
    · exact ih (m.react e) (h.trans same.symm) f member

theorem completed_iff {m : Moment} {n : Nat} {t : Task} (found : m.session.task? n = some t) :
    m.Completed n ↔ ∃ verdict, t.state = .live (.done verdict) := by
  constructor
  · rintro ⟨r, verdict, standing⟩
    obtain ⟨u, found', -, state⟩ := standing?_task.1 standing
    obtain rfl := Option.some.inj (found.symm.trans found')
    exact ⟨verdict, state⟩
  · rintro ⟨verdict, state⟩
    exact ⟨t.request, verdict, standing?_task.2 ⟨t, found, rfl, state⟩⟩

/-- The request with a ticket is the last one, and has not begun. -/
structure Fresh (m : Moment) (n : Nat) (expression : String) : Prop where
  ordered : m.session.Numbered ∧ m.session.InPlace
  submitted : m.session.submitted = n + 1
  queued : ∀ t, m.session.task? n = some t → t.request = ⟨0, expression⟩ ∧ t.state = .live .queued

theorem fresh_submit {m : Moment} (h : m.session.Numbered ∧ m.session.InPlace)
    (expression label : String) :
    (m.react (.submit expression label)).Fresh m.session.submitted expression where
  ordered := ordered_after h [.submit expression label]
  submitted := rfl
  queued := by
    intro t found
    rcases mem_react h.1 _ (Session.mem_of_task? found) with
      ⟨expression', label', same, rfl⟩ | ⟨u, there, ticket, -, -⟩
    · obtain ⟨rfl, rfl⟩ := Event.submit.inj same
      exact ⟨rfl, rfl⟩
    · rw [Session.ticket_of_task? found] at ticket
      exact absurd (h.1.below u there) (ticket ▸ Nat.lt_irrefl _)

theorem Fresh.lt_submitted {m : Moment} {n : Nat} {expression : String} (h : m.Fresh n expression)
    (later : List Event) : n < (m.after later).session.submitted := by
  have := submitted_le m later
  rw [h.submitted] at this
  exact this

/-- **A request is told to stop just in case it is cut off.** -/
theorem live_iff_not_cutOff {m : Moment} {n : Nat} {expression : String}
    (fresh : m.Fresh n expression)
    (later : List Event) {t : Task} (found : (m.after later).session.task? n = some t) :
    (∃ phase, t.state = .live phase) ↔ ¬m.CutOff n later := by
  -- The induction is on the events from the last one back, which may be the order.
  induction later using List.reverseRecOn generalizing t with
  | nil =>
    refine iff_of_true ⟨.queued, (fresh.queued t found).2⟩ ?_
    rintro ⟨before, order, after, same, -⟩
    simp at same
  | append_singleton later e ih =>
    obtain ⟨numbered, place⟩ := ordered_after fresh.ordered later
    rw [after_append, after_cons, after_nil] at found
    obtain ⟨u, found', -, state⟩ := task_before numbered e (fresh.lt_submitted later) found
    have there := Session.mem_of_task? found'
    have ticket := Session.ticket_of_task? found'
    have ih := ih found'
    rw [cutOff_concat, completed_iff found']
    cases order : e.isOrder with
    | false =>
      have same : (∃ phase, t.state = .live phase) ↔ ∃ phase, u.state = .live phase := by
        rw [state]
        constructor
        · rintro ⟨phase, live⟩
          obtain ⟨phase', live', -⟩ := nextState_eq_live live
          exact ⟨phase', live'⟩
        · rintro ⟨phase, live⟩
          exact live_nextState live (by simp [order])
      simp [same, ih]
    | true =>
      by_cases inFlight : (m.after later).session.inFlight = some n
      · have unsubmitted := submitted_eq_of_unsubmitted m later
          (by rw [fresh.submitted, place.last n inFlight])
        have stopped : t.state = u.state.stop := by
          rw [state]
          cases e <;> simp_all [nextState, Event.isOrder]
        rw [stopped, TaskState.live_stop_iff]
        constructor
        · rintro completed (cut | ⟨-, -, uncompleted⟩)
          · obtain ⟨verdict, live⟩ := completed
            exact ih.1 ⟨_, live⟩ cut
          · exact uncompleted completed
        · intro uncut
          by_contra uncompleted
          exact uncut (.inr ⟨unsubmitted, rfl, uncompleted⟩)
      · have same : t.state = u.state := by
          rw [state]
          cases e <;> simp_all [nextState, Event.isOrder]
        rw [same]
        constructor
        · rintro ⟨phase, live⟩ (cut | ⟨-, -, uncompleted⟩)
          · exact ih.1 ⟨phase, live⟩ cut
          · -- What is not in the place is not at work.
            cases phase with
            | done verdict => exact uncompleted ⟨verdict, live⟩
            | _ =>
              have atWork : u.state.isAtWork = true := by rw [live]; rfl
              exact inFlight (ticket ▸ place.found u there atWork)
        · exact fun uncut => ih.2 fun cut => uncut (.inl cut)

/-! ### What a request computes -/

/-- A request that is completed was so by a step of its own. -/
theorem computed_of_done {m : Moment} {n : Nat} {expression : String} (fresh : m.Fresh n expression)
    (later : List Event) {r : Request} {verdict : Verdict}
    (now : (m.after later).standing? (.task n) = some (r, .done verdict)) :
    r = ⟨0, expression⟩ ∧
      ∃ before after phase, later = before ++ .proceed n :: after ∧
        (m.after before).standing? (.task n) = some (r, phase) ∧ phase.isDone = false ∧
          ((m.after before).session.workshop.advance r phase).1 = .done verdict := by
  have request {later : List Event} {phase : Phase}
      (now : (m.after later).standing? (.task n) = some (r, phase)) : r = ⟨0, expression⟩ := by
    induction later using List.reverseRecOn generalizing phase with
    | nil =>
      obtain ⟨t, found, rfl, -⟩ := standing?_task.1 now
      exact (fresh.queued t found).1
    | append_singleton later e ih =>
      rw [after_append, after_cons, after_nil] at now
      obtain ⟨phase', before, -⟩ := standing?_before (c := .task n)
        (ordered_after fresh.ordered later).1 (fresh.lt_submitted later) now
      exact ih before
  refine ⟨request now, ?_⟩
  induction later using List.reverseRecOn with
  | nil =>
    obtain ⟨t, found, -, done⟩ := standing?_task.1 now
    rw [(fresh.queued t found).2] at done
    simp at done
  | append_singleton later e ih =>
    rw [after_append, after_cons, after_nil] at now
    obtain ⟨phase, before, goes⟩ := goes_before (c := .task n)
      (ordered_after fresh.ordered later).1 (fresh.lt_submitted later) now
    cases goes with
    | turn moves turn stepped =>
      obtain ⟨own, -⟩ := (takesTurn_iff before).1 turn
      cases e with
      | proceed k =>
        obtain rfl : k = n := by simpa [Event.isStepOf] using own
        exact ⟨later, [], phase, rfl, before, Phase.isDone_of_moves moves, congrArg Prod.fst stepped⟩
      | _ => simp [Event.isStepOf] at own
    | stay aside =>
      obtain ⟨before', after, phase', rfl, rest⟩ := ih before
      exact ⟨before', after ++ [e], phase', by simp, rest⟩

/-! ### One outcome, taken once -/

theorem take_fst (s : Session) (n : Nat) :
    (s.take n).1 = (s.task? n).bind Task.outcome? := by
  unfold Session.take
  split
  · rename_i outcome same
    exact same.symm
  · rename_i same
    exact same.symm

theorem isSome_outcome? (t : Task) : t.outcome?.isSome = t.state.isFinished := by
  unfold Task.outcome?
  cases t.state with
  | live phase => cases phase <;> rfl
  | stopping phase => rfl
  | superseded => rfl

theorem nextState_of_isFinished {m : Moment} {e : Event} {t : Task}
    (finished : t.state.isFinished = true) : m.nextState e t = t.state := by
  cases state : t.state with
  | live phase =>
    cases phase with
    | done verdict =>
      cases e <;> simp [nextState, Session.stepState, state, TaskState.stop, TaskState.halt,
        Phase.isDone, Workshop.advance_done]
    | queued => simp [state, TaskState.isFinished, Phase.isDone] at finished
    | compiling retried c => simp [state, TaskState.isFinished, Phase.isDone] at finished
  | stopping phase => simp [state, TaskState.isFinished] at finished
  | superseded =>
    cases e <;> simp [nextState, Session.stepState, state, TaskState.stop, TaskState.halt]

/-- The outcome of a task does not change. -/
theorem outcome_after {m : Moment} (numbered : m.session.Numbered) {n : Nat} {outcome : Outcome}
    (taken : (m.session.take n).1 = some outcome) (further : List Event) {outcome' : Outcome}
    (later : ((m.after further).session.take n).1 = some outcome') : outcome' = outcome := by
  rw [take_fst] at taken later
  obtain ⟨t, found, own⟩ := Option.bind_eq_some_iff.1 taken
  obtain ⟨t', found', own'⟩ := Option.bind_eq_some_iff.1 later
  have same : t'.request = t.request ∧ t'.state = t.state := by
    clear later own'
    induction further using List.reverseRecOn generalizing t' with
    | nil =>
      obtain rfl := Option.some.inj (found.symm.trans found')
      exact ⟨rfl, rfl⟩
    | append_singleton further e ih =>
      have numbered' : (m.after further).session.Numbered :=
        after_induction (P := fun m => m.session.Numbered) (fun _ e h => numbered_react h e)
          numbered further
      have old : n < (m.after further).session.submitted :=
        Nat.lt_of_lt_of_le (numbered.lt_of_task? found) (submitted_le m further)
      rw [after_append, after_cons, after_nil] at found'
      obtain ⟨u, there, request, state⟩ := task_before numbered' e old found'
      obtain ⟨request', state'⟩ := ih u there
      have finished : u.state.isFinished = true := by
        rw [state', ← isSome_outcome?, own]
        rfl
      rw [nextState_of_isFinished finished] at state
      exact ⟨request.trans request', state.trans state'⟩
  have := own'.symm.trans ((congrArg₂ (fun request state =>
    Task.outcome? ⟨t'.ticket, t'.label, request, state⟩) same.1 same.2).trans own)
  exact Option.some.inj this

theorem task?_collect {m : Moment} {n : Nat} {outcome : Outcome}
    (taken : (m.session.take n).1 = some outcome) (slot : Option String) :
    (m.react (.collect n slot)).session.task? n = none := by
  have gone : (m.session.tasks.filter fun t => t.ticket != n).find? (fun t => t.ticket == n) =
      none := by
    rw [List.find?_eq_none]
    intro t member
    simpa using (List.mem_filter.1 member).2
  rw [take_fst] at taken
  simp only [react, Session.collect_eq, taken]
  cases outcome with
  | ready e =>
    simp only [Session.task?, Session.tasks_keep]
    exact gone
  | superseded => exact gone

theorem task?_eq_none_after {m : Moment} (numbered : m.session.Numbered) {n : Nat}
    (old : n < m.session.submitted) (gone : m.session.task? n = none) (further : List Event) :
    (m.after further).session.task? n = none := by
  induction further generalizing m with
  | nil => exact gone
  | cons e further ih =>
    refine ih (numbered_react numbered e) (Nat.lt_of_lt_of_le old ?_) ?_
    · rw [submitted_react]
      exact Nat.le_add_right ..
    · cases found : (m.react e).session.task? n with
      | none => rfl
      | some t =>
        obtain ⟨u, found', -⟩ := task_before numbered e old found
        simp [gone] at found'

/-! ### Who is at work -/

theorem isBusy_iff {s : Session} (h : s.Numbered ∧ s.InPlace) :
    s.isBusy = true ↔ ∃ t ∈ s.tasks, t.state.isAtWork = true := by
  constructor
  · intro busy
    unfold Session.isBusy at busy
    cases inFlight : s.inFlight with
    | none => simp [inFlight] at busy
    | some n =>
      cases found : s.task? n with
      | none => simp [inFlight, Session.isFinished, found] at busy
      | some t =>
        have unfinished : t.state.isFinished = false := by
          simpa [inFlight, Session.isFinished, found] using busy
        have there := Session.mem_of_task? found
        obtain ⟨phase, live⟩ :=
          h.2.live t there (by rw [inFlight, Session.ticket_of_task? found])
        refine ⟨t, there, ?_⟩
        rw [live] at unfinished ⊢
        simpa [TaskState.isAtWork, TaskState.isFinished] using unfinished
  · rintro ⟨t, there, atWork⟩
    have unfinished : t.state.isFinished = false := by
      cases state : t.state with
      | live phase => simpa [state, TaskState.isAtWork, TaskState.isFinished] using atWork
      | stopping phase => rfl
      | superseded => simp [state, TaskState.isAtWork] at atWork
    simp [Session.isBusy, h.2.found t there atWork, Session.isFinished, h.1.task?_eq there,
      unfinished]

/-- A task that is not finished is not lost. -/
theorem unfinished_stays {m : Moment} (numbered : m.session.Numbered) (e : Event) {t : Task}
    (there : t ∈ m.session.tasks) (unfinished : t.state.isFinished = false) :
    ∃ t' ∈ (m.react e).session.tasks, t'.ticket = t.ticket := by
  have mapped {s : Session} {f : Task → Task} (tasks : s.tasks = m.session.tasks.map f)
      (ticket : (f t).ticket = t.ticket) : ∃ t' ∈ s.tasks, t'.ticket = t.ticket :=
    ⟨f t, tasks ▸ List.mem_map_of_mem there, ticket⟩
  cases e with
  | submit expression label =>
    simp only [react, Session.submit, Session.stopInFlight, List.map_map]
    refine ⟨_, List.mem_append_left _ (List.mem_map_of_mem there), ?_⟩
    simp only [Function.comp]
    split <;> split <;> rfl
  | cancel =>
    refine mapped rfl ?_
    split <;> rfl
  | stop n =>
    refine mapped (numbered.tasks_stop n) ?_
    split <;> rfl
  | proceed n =>
    refine mapped (numbered.tasks_proceed n) ?_
    split <;> rfl
  | collect n slot =>
    by_cases own : t.ticket = n
    · have unready : t.outcome? = none := by
        rw [← Option.isNone_iff_eq_none, ← Option.not_isSome, isSome_outcome?, unfinished]
        rfl
      have found := numbered.task?_eq there
      rw [own] at found
      refine ⟨t, ?_, rfl⟩
      simpa [react, Session.collect_eq, found, unready] using there
    · refine ⟨t, ?_, rfl⟩
      rcases m.session.tasks_collect n slot with same | fewer
      · exact same ▸ there
      · exact fewer ▸ List.mem_filter.2 ⟨there, by simpa using own⟩
  | reclaim =>
    refine ⟨t, ?_, rfl⟩
    simp only [react]
    split
    · exact List.mem_filter.2 ⟨there, by simp [unfinished]⟩
    · exact there
  | answer slot =>
    refine ⟨t, ?_, rfl⟩
    simp only [react]
    split
    · simpa using there
    · exact there
  | ask r =>
    refine ⟨t, ?_, rfl⟩
    simp only [react]
    split <;> exact there
  | pursue =>
    refine ⟨t, ?_, rfl⟩
    simp only [react]
    split <;> exact there
  | forsake =>
    refine ⟨t, ?_, rfl⟩
    simp only [react]
    split <;> exact there
  | _ => exact ⟨t, there, rfl⟩

/-! ### All together -/

/-- What a request has for an outcome after some events: none before it is finished; then one,
which stays the same until it is taken, and can be taken once. It is superseded just in case it
was cut off, and its answer is what a step of its own computed. -/
structure OneOutcome (m : Moment) (n : Nat) (expression : String) (later : List Event) : Prop where
  finished : ∀ t, (m.after later).session.task? n = some t →
    ((m.after later).session.take n).1.isSome = t.state.isFinished
  superseded : ∀ outcome, ((m.after later).session.take n).1 = some outcome →
    (outcome = .superseded ↔ m.CutOff n later)
  computed : ∀ e, ((m.after later).session.take n).1 = some (.ready e) →
    e.expression = expression ∧
      ∃ before after phase, later = before ++ .proceed n :: after ∧
        (m.after before).standing? (.task n) = some (⟨0, expression⟩, phase) ∧
          phase.isDone = false ∧
            ((m.after before).session.workshop.advance ⟨0, expression⟩ phase).1 = .done e.verdict
  same : ∀ outcome, ((m.after later).session.take n).1 = some outcome →
    ∀ further outcome', (((m.after later).after further).session.take n).1 = some outcome' →
      outcome' = outcome
  once : ∀ outcome, ((m.after later).session.take n).1 = some outcome →
    ∀ slot further,
      ((((m.after later).react (.collect n slot)).after further).session.take n).1 = none

theorem Fresh.oneOutcome {m : Moment} {n : Nat} {expression : String} (fresh : m.Fresh n expression)
    (later : List Event) : m.OneOutcome n expression later where
  finished := by
    intro t found
    rw [take_fst, found, Option.bind_some, isSome_outcome?]
  superseded := by
    intro outcome taken
    rw [take_fst] at taken
    obtain ⟨t, found, own⟩ := Option.bind_eq_some_iff.1 taken
    have cut := live_iff_not_cutOff fresh later found
    unfold Task.outcome? at own
    split at own
    · rename_i verdict live
      have uncut := cut.1 ⟨_, live⟩
      simp [← Option.some.inj own, uncut]
    · rename_i superseded
      have : m.CutOff n later := by
        by_contra uncut
        obtain ⟨phase, live⟩ := cut.2 uncut
        simp [superseded] at live
      simp [← Option.some.inj own, this]
    · simp at own
  computed := by
    intro e taken
    obtain ⟨r, standing, expression⟩ := standing?_of_take taken
    obtain ⟨rfl, computed⟩ := computed_of_done fresh later standing
    exact ⟨expression, computed⟩
  same := fun _ taken further _ later' =>
    outcome_after (ordered_after fresh.ordered later).1 taken further later'
  once := by
    intro outcome taken slot further
    have numbered := (ordered_after fresh.ordered later).1
    have gone := task?_eq_none_after (numbered_react numbered (.collect n slot))
      (by rw [submitted_react]; exact fresh.lt_submitted later) (task?_collect taken slot) further
    rw [take_fst, gone]
    rfl

/-- **Newer requests supersede older ones.** At every moment, at most one background request is
neither completed nor told to stop, it is the last one, and it is not lost; every request has one
outcome, which is superseded just in case the request was cut off; and `cancel` tells whether
there is a request at work, which there is not after it. -/
theorem supersession_exact (w : Workshop) (earlier : List Event) :
    let m := (first w).after earlier
    ((∀ t ∈ m.session.tasks, t.state.isAtWork = true → t.ticket + 1 = m.session.submitted) ∧
      (∀ t ∈ m.session.tasks, ∀ t' ∈ m.session.tasks, t.state.isAtWork = true →
        t'.state.isAtWork = true → t = t') ∧
      ∀ e, ∀ t ∈ m.session.tasks, t.state.isFinished = false →
        ∃ t' ∈ (m.react e).session.tasks, t'.ticket = t.ticket) ∧
    (∀ expression label later,
      (m.react (.submit expression label)).OneOutcome m.session.submitted expression later) ∧
    (m.session.cancel.1 = true ↔ ∃ t ∈ m.session.tasks, t.state.isAtWork = true) ∧
      m.session.cancel.2.cancel.1 = false := by
  have numbered := numbered_after w earlier
  have place := inPlace_after w earlier
  refine ⟨⟨fun t there atWork => place.ticket_add_one there atWork, ?_,
    fun e t there unfinished => unfinished_stays numbered e there unfinished⟩,
    fun expression label later => (fresh_submit ⟨numbered, place⟩ expression label).oneOutcome later,
    isBusy_iff ⟨numbered, place⟩, rfl⟩
  intro t there t' there' atWork atWork'
  have ticket := place.ticket_add_one there atWork
  have ticket' := place.ticket_add_one there' atWork'
  have found := numbered.task?_eq there
  rw [show t.ticket = t'.ticket by omega, numbered.task?_eq there'] at found
  exact (Option.some.inj found).symm

/-- A request that does not begin before the next one comes in is superseded. One that is done by then
is answered with what its last step computed. -/
theorem superseded_of_next :
    let library : Library := ⟨fun _ => true, interfaceVersion, true, fun _ x => x⟩
    let w : Workshop := .bare (fun _ _ =>
      .started (.ended ⟨.exited 0, [], some (.library library), 5⟩) none) 0
    let m := (first w).react (.submit "x" "first")
    let next : Event := .submit "x + 1" "second"
    ((m.after [next, .stop 0]).session.take 0).1 = some .superseded ∧
      m.CutOff 0 [next, .stop 0] ∧
      ∃ e, ((m.after [.proceed 0, .proceed 0, next]).session.take 0).1 = some (.ready e) ∧
        e.isSuccess = true ∧ e.expression = "x" ∧ ¬m.CutOff 0 [.proceed 0, .proceed 0, next] ∧
        ∃ before after phase, [.proceed 0, .proceed 0, next] = before ++ .proceed 0 :: after ∧
          phase.isDone = false ∧
          ((m.after before).session.workshop.advance ⟨0, "x"⟩ phase).1 = .done e.verdict := by
  intro library w m next
  have taken : ((m.after [next, .stop 0]).session.take 0).1 = some .superseded := rfl
  have success : ((m.after [.proceed 0, .proceed 0, next]).session.take 0).1.map (fun outcome =>
      outcome.casesOn Evaluation.isSuccess false) = some true := by decide +kernel
  have first := (supersession_exact w []).2.1 "x" "first" [next, .stop 0]
  have second := (supersession_exact w []).2.1 "x" "first" [.proceed 0, .proceed 0, next]
  cases answered : ((m.after [.proceed 0, .proceed 0, next]).session.take 0).1 with
  | none =>
    rw [answered] at success
    cases success
  | some outcome =>
    rw [answered] at success
    cases outcome with
    | superseded => cases success
    | ready e =>
      have uncut : ¬m.CutOff 0 [.proceed 0, .proceed 0, next] := fun cut => by
        cases (second.superseded _ answered).2 cut
      obtain ⟨own, before, after, phase, split, -, unfinished, computed⟩ :=
        second.computed e answered
      exact ⟨taken, (first.superseded _ taken).1 rfl, e, rfl, Option.some.inj success, own, uncut,
        before, after, phase, split, unfinished, computed⟩

end Moment

end Plotter
