import Mathlib.Data.List.Induction
import Plotter.Proofs.Session.Effects

/-!
# The requests of a session

At each moment there may be a request that the user waits for, and there is one for each task
that is not told to stop. Each of them has a *client*: the user, or the task with a ticket. A
request goes on when its client takes a turn, and every other event leaves it where it is.

## What is proved

* `Moment.goes_before`: an event is a turn of a request, or leaves it where it is.
* `Moment.standing_after`: what each step of a request preserves holds of every request.
* `Moment.trials_after`: whatever happens in a session, the turns of a client make up a
  history of the client's request, and each of its trials ended in a step of that client's.
-/

namespace Plotter

open Workshop (Furnished)

/-- A request that can go on has not ended. -/
theorem Phase.isDone_of_moves {phase : Phase} (moves : phase.moves = true) :
    phase.isDone = false := by
  cases phase with
  | done verdict => cases moves
  | _ => rfl

namespace Moment

/-- Whether a client's request goes on in an event. -/
def takesTurn (m : Moment) (c : Client) (e : Event) : Bool :=
  e.isStepOf c && (m.standing? c).any fun standing => standing.2.moves

/-- A client takes a turn. -/
theorem takesTurn_iff {m : Moment} {c : Client} {r : Request} {phase : Phase} {e : Event}
    (standing : m.standing? c = some (r, phase)) :
    m.takesTurn c e = true ↔ e.isStepOf c = true ∧ phase.moves = true := by
  rw [takesTurn, standing, Bool.and_eq_true]
  rfl

/-- The turns of a client: the workshops before and after each event in which its request goes
on. -/
def turns (c : Client) : Moment → List Event → List (Workshop × Workshop)
  | _, [] => []
  | m, e :: es =>
    let later := turns c (m.react e) es
    if m.takesTurn c e then (m.session.workshop, (m.react e).session.workshop) :: later else later

theorem turns_append (c : Client) (m : Moment) (es fs : List Event) :
    turns c m (es ++ fs) = turns c m es ++ turns c (m.after es) fs := by
  induction es generalizing m with
  | nil => rfl
  | cons e es ih =>
    simp only [List.cons_append, turns, after_cons, ih]
    split <;> simp

/-- The outcome of a background request is that of its standing. -/
theorem standing?_of_take {m : Moment} {n : Nat} {e : Evaluation}
    (taken : (m.session.take n).1 = some (.ready e)) :
    ∃ r, m.standing? (.task n) = some (r, .done e.verdict) ∧ e.expression = r.expression := by
  unfold Session.take at taken
  cases found : m.session.task? n with
  | none => simp [found] at taken
  | some t =>
    cases state : t.state with
    | live phase =>
      cases phase with
      | done verdict =>
        simp only [found, Option.bind_some, Task.outcome?, state, Option.some.injEq,
          Outcome.ready.injEq] at taken
        obtain rfl := taken
        exact ⟨t.request, standing?_task.2 ⟨t, found, rfl, state⟩, rfl⟩
      | queued => simp [found, Task.outcome?, state] at taken
      | compiling retried c => simp [found, Task.outcome?, state] at taken
    | stopping phase => simp [found, Task.outcome?, state] at taken
    | superseded => simp [found, Task.outcome?, state] at taken

/-- A client that was there before an event, unless it is the user who asks anew. -/
def Lasts (m : Moment) (e : Event) : Client → Prop
  | .user => e.isAsk = false
  | .task n => n < m.session.submitted

theorem eq_live_of_stop {state : TaskState} {phase : Phase}
    (h : state.stop = .live phase) : state = .live phase := by
  cases state with
  | live phase' =>
    simp only [TaskState.stop] at h
    split at h
    · exact h
    · simp at h
  | stopping phase' => simp [TaskState.stop] at h
  | superseded => simp [TaskState.stop] at h

/-- A task that is at work after an event was so before it, and perhaps took a step. -/
theorem nextState_eq_live {m : Moment} {e : Event} {t : Task} {phase' : Phase}
    (h : m.nextState e t = .live phase') :
    ∃ phase, t.state = .live phase ∧
      phase' = if e.isStepOf (.task t.ticket) then (m.session.workshop.advance t.request phase).1
        else phase := by
  cases e with
  | submit expression label =>
    simp only [nextState] at h
    split at h
    · exact ⟨phase', eq_live_of_stop h, by simp [Event.isStepOf]⟩
    · exact ⟨phase', h, by simp [Event.isStepOf]⟩
  | cancel =>
    simp only [nextState] at h
    split at h
    · exact ⟨phase', eq_live_of_stop h, by simp [Event.isStepOf]⟩
    · exact ⟨phase', h, by simp [Event.isStepOf]⟩
  | stop n =>
    refine ⟨phase', ?_, by simp [Event.isStepOf]⟩
    simp only [nextState] at h
    split at h
    · cases state : t.state <;> simp_all [TaskState.halt]
    · exact h
  | proceed n =>
    simp only [nextState] at h
    split at h
    · rename_i own
      cases state : t.state <;> simp_all [Session.stepState, Event.isStepOf]
    · rename_i other
      exact ⟨phase', h, by simp [Event.isStepOf, Ne.symm other]⟩
  | _ => exact ⟨phase', h, by simp [Event.isStepOf]⟩

/-- **An event leaves a request where it is, or is a step of it.** -/
theorem standing?_before {m : Moment} (numbered : m.session.Numbered) {e : Event} {c : Client}
    (lasts : m.Lasts e c) {r : Request} {phase' : Phase}
    (now : (m.react e).standing? c = some (r, phase')) :
    ∃ phase, m.standing? c = some (r, phase) ∧
      if e.isStepOf c then
        m.session.workshop.advance r phase = (phase', (m.react e).session.workshop)
      else phase' = phase := by
  cases c with
  | user =>
    have stays (same : (m.react e).awaited = m.awaited) (other : e.isStepOf .user = false) :
        ∃ phase, m.standing? .user = some (r, phase) ∧
          if e.isStepOf .user then
            m.session.workshop.advance r phase = (phase', (m.react e).session.workshop)
          else phase' = phase :=
      ⟨phase', same.symm.trans now, by simp [other]⟩
    cases e with
    | pursue =>
      cases awaited : m.awaited with
      | none => simp [standing?, react, awaited] at now
      | some standing =>
        obtain ⟨r', phase⟩ := standing
        simp only [standing?, react, awaited, Option.some.injEq, Prod.mk.injEq] at now
        obtain ⟨rfl, rfl⟩ := now
        exact ⟨phase, awaited, by simp [Event.isStepOf, react, awaited]⟩
    | ask r' => simp [Lasts, Event.isAsk] at lasts
    | forsake =>
      refine stays ?_ rfl
      simp only [standing?, react] at now ⊢
      split
      · rfl
      · rename_i standing awaited
        simp [awaited] at now
    | answer slot =>
      refine stays ?_ rfl
      simp only [standing?, react] at now ⊢
      split
      · rename_i awaited
        simp [awaited] at now
      · rfl
    | reclaim =>
      refine stays ?_ rfl
      simp only [react]
      split <;> simp [*]
    | _ => exact stays rfl rfl
  | task n =>
    obtain ⟨t, found, rfl, live⟩ := standing?_task.1 now
    obtain ⟨u, found', request, state⟩ := task_before numbered e lasts found
    obtain rfl := Session.ticket_of_task? found'
    obtain ⟨phase, live', step⟩ := nextState_eq_live (state.symm.trans live)
    refine ⟨phase, standing?_task.2 ⟨u, found', request.symm, live'⟩, ?_⟩
    rw [request]
    split
    · rename_i own
      rw [if_pos own] at step
      cases e with
      | proceed k =>
        obtain rfl : k = u.ticket := by simpa [Event.isStepOf] using own
        simp only [react, Session.proceed, found', Session.advanceTask, live']
        rw [step]
        rfl
      | _ => simp [Event.isStepOf] at own
    · rename_i other
      rwa [if_neg other] at step

/-- What becomes of a client's request in an event: it takes a turn, or stays where it is. -/
inductive Goes (m : Moment) (e : Event) (c : Client) (r : Request) (phase : Phase) : Phase → Prop
  | turn {phase' : Phase} (moves : phase.moves = true) (turn : m.takesTurn c e = true)
      (stepped : m.session.workshop.advance r phase = (phase', (m.react e).session.workshop)) :
      Goes m e c r phase phase'
  | stay (aside : m.takesTurn c e = false) : Goes m e c r phase phase

/-- **An event is a turn of a request, or leaves it where it is.** -/
theorem goes_before {m : Moment} (numbered : m.session.Numbered) {e : Event} {c : Client}
    (lasts : m.Lasts e c) {r : Request} {phase' : Phase}
    (now : (m.react e).standing? c = some (r, phase')) :
    ∃ phase, m.standing? c = some (r, phase) ∧ m.Goes e c r phase phase' := by
  obtain ⟨phase, before, step⟩ := standing?_before numbered lasts now
  refine ⟨phase, before, ?_⟩
  cases turn : m.takesTurn c e with
  | true =>
    obtain ⟨own, moves⟩ := (takesTurn_iff before).1 turn
    rw [if_pos own] at step
    exact .turn moves turn step
  | false =>
    have same : phase' = phase := by
      split at step
      · rename_i own
        have stuck : phase.moves = false := by simpa [takesTurn, before, own] using turn
        rw [Workshop.advance_of_stuck _ _ stuck] at step
        exact (Prod.mk.inj step).1.symm
      · exact step
    rw [same]
    exact .stay turn

/-- A request that has not ended had not before. -/
theorem Goes.isDone_before {m : Moment} {e : Event} {c : Client} {r : Request} {phase phase' : Phase}
    (h : m.Goes e c r phase phase') (unfinished : phase'.isDone = false) : phase.isDone = false := by
  cases h with
  | turn moves _ _ => exact Phase.isDone_of_moves moves
  | stay _ => exact unfinished

/-- A client that comes with an event has a request that has not begun. -/
theorem standing?_of_new {m : Moment} (numbered : m.session.Numbered) {e : Event} {c : Client}
    {r : Request} {phase : Phase} (new : ¬m.Lasts e c)
    (standing : (m.react e).standing? c = some (r, phase)) :
    phase = .queued ∨ m.standing? c = some (r, phase) := by
  cases c with
  | user =>
    cases e with
    | ask request =>
      simp only [standing?, react] at standing
      split at standing
      · simp only [Option.some.injEq, Prod.mk.injEq] at standing
        exact .inl standing.2.symm
      · exact .inr standing
    | _ => exact absurd rfl new
  | task n =>
    obtain ⟨t, found, -, live⟩ := standing?_task.1 standing
    obtain rfl := Session.ticket_of_task? found
    rcases mem_react numbered e (Session.mem_of_task? found) with
      ⟨expression, label, -, rfl⟩ | ⟨u, member, own, -, -⟩
    · exact .inl (TaskState.live.inj live).symm
    · exact absurd (own ▸ numbered.below u member) new

/-- **What holds of every request.** It holds of a request that has not begun, and each step of a
request preserves it. -/
theorem standing_after {w : Workshop} (furnished : Furnished w) {P : Request → Phase → Prop}
    (queued : ∀ r, P r .queued)
    (step : ∀ (w' : Workshop) r phase, w.Steady w' → P r phase → P r (w'.advance r phase).1)
    (events : List Event) {c : Client} {r : Request} {phase : Phase}
    (standing : ((first w).after events).standing? c = some (r, phase)) : P r phase := by
  induction events using List.reverseRecOn generalizing c r phase with
  | nil => cases c <;> simp [first, standing?, Session.task?] at standing
  | append_singleton events e ih =>
    have numbered := numbered_after w events
    rw [after_append, after_cons, after_nil] at standing
    by_cases lasts : ((first w).after events).Lasts e c
    · obtain ⟨phase', before, stepped⟩ := standing?_before numbered lasts standing
      split at stepped
      · have own := step _ r phase' (steady_after furnished events) (ih before)
        rwa [stepped] at own
      · exact stepped ▸ ih before
    · rcases standing?_of_new numbered lasts standing with rfl | before
      · exact queued r
      · exact ih before

theorem submitted_le (m : Moment) (events : List Event) :
    m.session.submitted ≤ (m.after events).session.submitted := by
  induction events generalizing m with
  | nil => exact Nat.le_refl _
  | cons e es ih =>
    refine Nat.le_trans ?_ (ih (m.react e))
    rw [submitted_react]
    exact Nat.le_add_right ..

theorem turns_one (m : Moment) (c : Client) (e : Event) :
    turns c m [e] =
      if m.takesTurn c e then [(m.session.workshop, (m.react e).session.workshop)] else [] := rfl

/-- A trial whose run of the compiler was started ended in a step of the client's, who had waited
for that run. -/
def TakenUp (m : Moment) (c : Client) (later : List Event) (r : Request) (t : Trial) : Prop :=
  t.compilation.response.isStarted = true →
    ∃ before after, later = before ++ after ∧ t.resumed = (m.after before).session.workshop ∧
      (m.after before).standing? c = some (r, .compiling t.retried t.compilation)

theorem TakenUp.append {m : Moment} {c : Client} {later : List Event} {r : Request} {t : Trial}
    (h : m.TakenUp c later r t) (further : List Event) : m.TakenUp c (later ++ further) r t := by
  intro started
  obtain ⟨before, after, rfl, resumed, standing⟩ := h started
  exact ⟨before, after ++ further, List.append_assoc .., resumed, standing⟩

/-- A client that was there stays, unless it is the user who asks anew. -/
theorem lasts_after {w : Workshop} {earlier later : List Event} {c : Client} {r : Request}
    (queued : ((first w).after earlier).standing? c = some (r, .queued))
    (lasts : c = .user → ∀ e ∈ later, e.isAsk = false) {before : List Event} {e : Event}
    {after : List Event} (same : later = before ++ e :: after) :
    (((first w).after earlier).after before).Lasts e c := by
  cases c with
  | user => exact lasts rfl e (by simp [same])
  | task n =>
    obtain ⟨t, there, -⟩ := standing?_task.1 queued
    exact Nat.lt_of_lt_of_le ((numbered_after w earlier).lt_of_task? there) (submitted_le ..)

/-- **The turns of a client make up a history of its request.** From the moment at which a
request is queued, whatever else happens in the session between its turns. -/
theorem trials_after {w : Workshop} (furnished : Furnished w) (earlier later : List Event)
    {c : Client} {r : Request} {host : Host} (found : w.hosts[r.host]? = some host)
    (queued : ((first w).after earlier).standing? c = some (r, .queued))
    (lasts : c = .user → ∀ e ∈ later, e.isAsk = false) {r' : Request} {phase : Phase}
    (now : (((first w).after earlier).after later).standing? c = some (r', phase)) :
    r' = r ∧
      ∃ trials, History r host (turns c ((first w).after earlier) later) trials phase ∧
        ∀ t ∈ trials, ((first w).after earlier).TakenUp c later r t := by
  obtain ⟨template, kept⟩ := furnished.ready host (List.mem_of_getElem? found)
  -- The induction is on the events from the last one back: the request was there before it.
  induction later using List.reverseRecOn generalizing phase with
  | nil =>
    obtain ⟨rfl, rfl⟩ := Prod.mk.inj (Option.some.inj (queued.symm.trans now))
    exact ⟨rfl, [], .queued, by simp⟩
  | append_singleton later e ih =>
    have numbered : (((first w).after earlier).after later).session.Numbered := by
      rw [← after_append]
      exact numbered_after w (earlier ++ later)
    have steady : w.Steady (((first w).after earlier).after later).session.workshop := by
      rw [← after_append]
      exact steady_after furnished (earlier ++ later)
    have lastsNow : (((first w).after earlier).after later).Lasts e c := lasts_after queued lasts rfl
    rw [after_append, after_cons, after_nil] at now
    obtain ⟨phase₀, before, goes⟩ := goes_before numbered lastsNow now
    obtain ⟨rfl, trials, history, taken⟩ :=
      ih (fun user e member => lasts user e (List.mem_append_left _ member)) before
    refine ⟨rfl, ?_⟩
    have old := fun t member => (taken t member).append [e]
    rw [turns_append, turns_one]
    cases goes with
    | turn moves turn stepped =>
      obtain ⟨new, history', ended, -⟩ := history.advance_trials moves (steady.hosts ▸ found) kept
      rw [stepped] at history'
      rw [if_pos turn]
      refine ⟨trials ++ new, history', fun t member => ?_⟩
      rcases List.mem_append.1 member with among | recent
      · exact old t among
      · intro started
        obtain ⟨resumed, compiling⟩ := ended t recent started
        exact ⟨later, [e], rfl, resumed, compiling ▸ before⟩
    | stay aside =>
      rw [aside, if_neg Bool.false_ne_true, List.append_nil]
      exact ⟨trials, history, old⟩

theorem history_after {w : Workshop} (furnished : Furnished w) (earlier later : List Event)
    {c : Client} {r : Request} {host : Host} (found : w.hosts[r.host]? = some host)
    (queued : ((first w).after earlier).standing? c = some (r, .queued))
    (lasts : c = .user → ∀ e ∈ later, e.isAsk = false) {r' : Request} {phase : Phase}
    (now : (((first w).after earlier).after later).standing? c = some (r', phase)) :
    r' = r ∧
      ∃ trials, History r host (turns c ((first w).after earlier) later) trials phase := by
  obtain ⟨same, trials, history, -⟩ := trials_after furnished earlier later found queued lasts now
  exact ⟨same, trials, history⟩

end Moment

end Plotter
