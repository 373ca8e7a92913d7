import Plotter.Proofs.Session.Answers
import Plotter.Proofs.Session.Bursts
import Plotter.Proofs.Session.MaskedExpressions

/-!
# No expression is looked into

An expression goes into a source, and comes back with the answer. On the way nobody looks into it,
whatever is in it: the names, the place at which it begins, and all that is made of what the
compiler answers are the same for all expressions.

Compared are two requests to one host, made in one session, or two histories of a session. The
compiler sees the sources, so it may answer the two in different ways; what is said is said of
compilers that answer them alike (`Machine.AnsweredAlike`). The chance in names is part of a
session, so it is the same for both. The times that the runs take need be so only where tasks work
meanwhile: which of two runs is over first decides which task goes on first, and takes the next
names.

The proofs follow the recursions of `Workshop.pursueFor`, `Session.pursueFor` and `Moment.after`.
That the compiler answers alike is known of all that it is asked to the end, and so of what it was
asked before (`Machine.AnsweredAlike.of_steady`).

## What is proved

* `Moment.masked_after`: events that are the same when masked lead to moments that are.
* `Session.masked_evaluate`: two requests that are the same when masked are answered in ways that
  are.
* `Moment.indifference_exact`: two requests that differ in their expressions get the same answers,
  and leave what differs in nothing but the expressions.
-/

namespace Plotter

variable {v : ExpressionMask}

theorem Workshop.Ready.of_masked {w w' : Workshop} (h : w.Ready) (look : w.masked v = w'.masked v) :
    w'.Ready := by
  have hosts : w'.hosts = w.hosts := by
    show (w'.masked v).hosts = (w.masked v).hosts
    rw [look]
  unfold Ready
  rw [hosts]
  exact h

/-! ### Events -/

namespace Session

variable {s s' : Session}

theorem workshop_of_masked (look : s.masked v = s'.masked v) :
    s.workshop.masked v = s'.workshop.masked v := by
  show (s.masked v).workshop = (s'.masked v).workshop
  rw [look]

theorem masked_workshop (look : s.masked v = s'.masked v) {w w' : Workshop}
    (looks : w.masked v = w'.masked v) :
    ({ s with workshop := w } : Session).masked v = ({ s' with workshop := w' } : Session).masked v := by
  show ({ s.masked v with workshop := w.masked v } : Session) =
    { s'.masked v with workshop := w'.masked v }
  rw [look, looks]

/-- Tasks that look the same are found in sessions that look the same. -/
theorem task?_of_masked (look : s.masked v = s'.masked v) (n : Nat) :
    (s.task? n).map (Task.masked v) = (s'.task? n).map (Task.masked v) := by
  rw [← task?_masked, ← task?_masked, look]

theorem masked_advanceTask (ready : s.workshop.Ready) (look : s.masked v = s'.masked v) {t t' : Task}
    (same : t.masked v = t'.masked v)
    (alike : (s.advanceTask t).workshop.machine.AnsweredAlike
      (s'.advanceTask t').workshop.machine v) :
    (s.advanceTask t).masked v = (s'.advanceTask t').masked v := by
  obtain ⟨ticket, label, request, state⟩ := t
  obtain ⟨ticket', label', request', state'⟩ := t'
  obtain ⟨rfl, rfl, requests, states⟩ := Task.mk.inj same
  cases state with
  | live phase =>
    cases state' with
    | live phase' =>
      have phases : phase.masked v = phase'.masked v := TaskState.live.inj states
      obtain ⟨phases, workshops⟩ :=
        Workshop.masked_advance ready (workshop_of_masked look) requests phases alike
      simp only [advanceTask, masked_setState, TaskState.masked]
      rw [masked_workshop look workshops, phases]
    | _ => simp [TaskState.masked] at states
  | stopping phase =>
    cases state' with
    | stopping phase' => exact look
    | _ => simp [TaskState.masked] at states
  | superseded =>
    cases state' with
    | superseded => exact look
    | _ => simp [TaskState.masked] at states

theorem masked_proceed (ready : s.workshop.Ready) (look : s.masked v = s'.masked v) (n : Nat)
    (alike : (s.proceed n).workshop.machine.AnsweredAlike (s'.proceed n).workshop.machine v) :
    (s.proceed n).masked v = (s'.proceed n).masked v := by
  have found := task?_of_masked look n
  unfold proceed at alike ⊢
  generalize s.task? n = task at found alike ⊢
  generalize s'.task? n = task' at found alike ⊢
  cases task with
  | none =>
    cases task' with
    | none => exact look
    | some t' => simp at found
  | some t =>
    cases task' with
    | none => simp at found
    | some t' => exact masked_advanceTask ready look (Option.some.inj found) alike

end Session

namespace Moment

variable {m m' : Moment}

theorem session_of_masked (look : m.masked v = m'.masked v) : m.session.masked v = m'.session.masked v := by
  show (m.masked v).session = (m'.masked v).session
  rw [look]

theorem Ready.of_masked (ready : m.session.workshop.Ready) (look : m.masked v = m'.masked v) :
    m'.session.workshop.Ready :=
  Workshop.Ready.of_masked ready (Session.workshop_of_masked (session_of_masked look))

/-- The request that the user waits for goes on by a step in both. -/
theorem masked_pursue (ready : m.session.workshop.Ready) (look : m.masked v = m'.masked v)
    (alike : (m.react .pursue).session.workshop.machine.AnsweredAlike
      (m'.react .pursue).session.workshop.machine v) :
    (m.react .pursue).masked v = (m'.react .pursue).masked v := by
  obtain ⟨s, awaited⟩ := m
  obtain ⟨s', awaited'⟩ := m'
  obtain ⟨sessions, waits⟩ := Moment.mk.inj look
  rcases awaited with - | ⟨r, phase⟩ <;> rcases awaited' with - | ⟨r', phase'⟩
  · exact look
  · simp at waits
  · simp at waits
  · obtain ⟨requests, phases⟩ := Prod.mk.inj (Option.some.inj waits)
    obtain ⟨phases, workshops⟩ :=
      Workshop.masked_advance ready (Session.workshop_of_masked sessions) requests phases alike
    have pursued := Session.masked_workshop sessions workshops
    simp only [react, Moment.masked, Option.map_some]
    rw [pursued, requests, phases]

theorem isStep_masked (e : Event) : (e.masked v).isStep = e.isStep := by
  cases e <;> rfl

/-- **Events that look the same** lead from moments that look the same to moments that look the
same, if the compiler answers alike. -/
theorem masked_react_eq (timed : v.timed = true) (ready : m.session.workshop.Ready)
    (look : m.masked v = m'.masked v)
    {e e' : Event} (same : e.masked v = e'.masked v)
    (alike : (m.react e).session.workshop.machine.AnsweredAlike
      (m'.react e').session.workshop.machine v) :
    (m.react e).masked v = (m'.react e').masked v := by
  cases step : e.isStep with
  | false =>
    have step' : e'.isStep = false := by rw [← isStep_masked (v := v), ← same, isStep_masked, step]
    rw [masked_react timed step, masked_react timed step', look, same]
  | true =>
    have sessions := session_of_masked look
    cases e with
    | proceed n =>
      cases e' with
      | proceed n' =>
        obtain rfl := Event.proceed.inj same
        have proceeded := Session.masked_proceed ready sessions n alike
        show (⟨(m.session.proceed n).masked v, (m.masked v).awaited⟩ : Moment) =
          ⟨(m'.session.proceed n).masked v, (m'.masked v).awaited⟩
        rw [proceeded, look]
      | _ => simp [Event.masked] at same
    | pursue =>
      cases e' with
      | pursue => exact masked_pursue ready look alike
      | _ => simp [Event.masked] at same
    | _ => simp [Event.isStep] at step

/-- **Histories that look the same lead to moments that look the same**, if the compiler answers
alike in both. -/
theorem masked_after (timed : v.timed = true) (ready : m.session.workshop.Ready)
    (look : m.masked v = m'.masked v)
    {events events' : List Event} (same : events.map (Event.masked v) = events'.map (Event.masked v))
    (alike : (m.after events).session.workshop.machine.AnsweredAlike
      (m'.after events').session.workshop.machine v) :
    (m.after events).masked v = (m'.after events').masked v := by
  -- From the end: what is answered alike after the last event is so before it.
  induction events using List.reverseRecOn generalizing events' with
  | nil =>
    obtain rfl : events' = [] := List.map_eq_nil_iff.1 same.symm
    exact look
  | append_singleton events e ih =>
    rw [List.map_append, eq_comm, List.map_eq_append_iff] at same
    obtain ⟨events', last, rfl, earlier, lasts⟩ := same
    obtain ⟨e', rfl, own⟩ := List.map_eq_singleton_iff.1 lasts
    have ready' := Ready.of_masked ready look
    rw [after_append, after_append] at alike ⊢
    have readyThen := (steady_later ready events).ready ready
    have readyThen' := (steady_later ready' events').ready ready'
    have before := ih earlier.symm (alike.of_steady (steady_react readyThen e).machine
      (steady_react readyThen' e').machine)
    exact masked_react_eq timed readyThen before own.symm alike

end Moment

/-! ### While the user waits -/

theorem Moment.Leads.steady {m m' : Moment} (h : Leads m m') (ready : m.session.workshop.Ready) :
    m.session.workshop.Steady m'.session.workshop := by
  obtain ⟨events, -, rfl⟩ := h
  exact steady_later ready events

namespace Session

variable {s s' : Session} {r r' : Request}

/-- What is done to a task when the user begins to wait does not depend on what is masked. -/
theorem pollTask_eq (v : ExpressionMask) (s : Session) (n : Nat) :
    s.pollTask n =
      match ((s.masked v).task? n).map Task.state with
      | some (.stopping _) => s.stop n
      | some (.live .queued) => s.proceed n
      | _ => s := by
  rw [pollTask, task?_masked]
  cases s.task? n with
  | none => rfl
  | some t =>
    obtain ⟨ticket, label, request, state⟩ := t
    cases state with
    | live phase => cases phase <;> rfl
    | _ => rfl

theorem masked_pollTask (timed : v.timed = true) (ready : s.workshop.Ready)
    (look : s.masked v = s'.masked v) (n : Nat)
    (alike : (s.pollTask n).workshop.machine.AnsweredAlike (s'.pollTask n).workshop.machine v) :
    (s.pollTask n).masked v = (s'.pollTask n).masked v := by
  rw [pollTask_eq v s, pollTask_eq v s', look] at alike
  rw [pollTask_eq v s, pollTask_eq v s', look]
  generalize ((s'.masked v).task? n).map Task.state = state at alike ⊢
  rcases state with - | (phase | phase | -)
  · exact look
  · cases phase with
    | queued => exact masked_proceed ready look n alike
    | _ => exact look
  · show (s.stop n).masked v = (s'.stop n).masked v
    rw [masked_stop timed, masked_stop timed, look]
  · exact look

theorem masked_pollTasks (timed : v.timed = true) (ready : s.workshop.Ready)
    (look : s.masked v = s'.masked v) (tickets : List Nat)
    (alike : (tickets.foldl pollTask s).workshop.machine.AnsweredAlike
      (tickets.foldl pollTask s').workshop.machine v) :
    (tickets.foldl pollTask s).masked v = (tickets.foldl pollTask s').masked v := by
  induction tickets generalizing s s' with
  | nil => exact look
  | cons n tickets ih =>
    have ready' := ready.of_masked (workshop_of_masked look)
    have polled {s : Session} (ready : s.workshop.Ready) : (s.pollTask n).workshop.Ready :=
      ((s.leads_pollTask none n).steady ready).ready ready
    have onward {s : Session} (ready : s.workshop.Ready) :=
      ((leads_pollTasks (s.pollTask n) none tickets).steady (polled ready)).machine
    have one := masked_pollTask timed ready look n (alike.of_steady (onward ready) (onward ready'))
    exact ih (polled ready) one alike

theorem masked_poll (timed : v.timed = true) (ready : s.workshop.Ready)
    (look : s.masked v = s'.masked v)
    (alike : s.poll.workshop.machine.AnsweredAlike s'.poll.workshop.machine v) :
    s.poll.masked v = s'.poll.masked v := by
  have tickets (s : Session) : s.tasks.map Task.ticket = (s.masked v).tasks.map Task.ticket := by
    simp [masked, Task.masked, Function.comp_def]
  have same : s.tasks.map Task.ticket = s'.tasks.map Task.ticket := by
    rw [tickets s, tickets s', look]
  rw [poll, poll, same] at alike ⊢
  exact masked_pollTasks timed ready look _ alike

theorem dueBefore?_masked (timed : v.timed = true) (time : Nat) :
    (s.masked v).dueBefore? time = (s.dueBefore? time).map (Task.masked v) := by
  have due (t : Task) : (t.masked v).due? = t.due? := t.due?_masked timed
  have dues : (s.masked v).tasks.filterMap Task.due? = s.tasks.filterMap Task.due? := by
    simp [masked, List.filterMap_map, due]
  rw [dueBefore?, dueBefore?, dues]
  cases (s.tasks.filterMap Task.due?).min? with
  | none => rfl
  | some first =>
    simp only
    split
    · simp only [masked, List.find?_map, Function.comp_def, due]
    · rfl

theorem stepBound_masked : (s.masked v).stepBound (r.masked v) = s.stepBound r := by
  show (s.tasks.map (Task.masked v)).foldl _ _ = _
  rw [List.foldl_map]
  rfl

/-- The user waits for two requests that look the same: what happens meanwhile looks the same. -/
theorem masked_pursueFor (timed : v.timed = true) (ready : s.workshop.Ready)
    (look : s.masked v = s'.masked v) (same : r.masked v = r'.masked v) (steps : Nat)
    {phase phase' : Phase} (phases : phase.masked v = phase'.masked v)
    (alike : (s.pursueFor r steps phase).2.workshop.machine.AnsweredAlike
      (s'.pursueFor r' steps phase').2.workshop.machine v) :
    (s.pursueFor r steps phase).1.masked v = (s'.pursueFor r' steps phase').1.masked v ∧
      (s.pursueFor r steps phase).2.masked v = (s'.pursueFor r' steps phase').2.masked v := by
  induction steps generalizing s s' phase phase' with
  | zero => exact ⟨phases, look⟩
  | succ steps ih =>
    have ready' := ready.of_masked (workshop_of_masked look)
    have onward (r : Request) (phase : Phase) {s : Session} (ready : s.workshop.Ready) :=
      ((s.leads_pursueFor r steps phase).steady ready).machine
    have due : phase.due? = phase'.due? := by
      rw [← phase.due?_masked timed, phases, phase'.due?_masked timed]
    -- Both wait for a time that is seen, and the same task, if any, goes on before it.
    simp only [pursueFor, ← due] at alike ⊢
    generalize phase.due? = due at alike ⊢
    cases due with
    | none => exact ⟨phases, look⟩
    | some time =>
      have first :
          (s.dueBefore? time).map (Task.masked v) = (s'.dueBefore? time).map (Task.masked v) := by
        rw [← dueBefore?_masked timed, ← dueBefore?_masked timed, look]
      dsimp only at alike ⊢
      generalize s.dueBefore? time = t at first alike ⊢
      generalize s'.dueBefore? time = t' at first alike ⊢
      rcases t with - | t <;> rcases t' with - | t'
      · have advanced {s : Session} (ready : s.workshop.Ready) (r : Request) (phase : Phase) :=
          (Workshop.advance_steady ready r phase).ready ready
        have before := alike.of_steady (onward r _ (advanced ready r phase))
          (onward r' _ (advanced ready' r' phase'))
        obtain ⟨phases, workshops⟩ :=
          Workshop.masked_advance ready (workshop_of_masked look) same phases before
        exact ih (advanced ready r phase) (masked_workshop look workshops) phases alike
      · simp at first
      · simp at first
      · have tasks : t.masked v = t'.masked v := Option.some.inj first
        have ticket : t.ticket = t'.ticket := by
          show (t.masked v).ticket = (t'.masked v).ticket
          rw [tasks]
        simp only [← ticket] at alike ⊢
        have went {s : Session} (ready : s.workshop.Ready) : (s.proceed t.ticket).workshop.Ready :=
          (Moment.steady_react (m := ⟨s, none⟩) ready (.proceed t.ticket)).ready ready
        have one := masked_proceed ready look t.ticket
          (alike.of_steady (onward r phase (went ready)) (onward r' phase' (went ready')))
        exact ih (went ready) one phases alike

end Session

/-! ### Evaluations -/

namespace Workshop

variable {w w' : Workshop} {r r' : Request}

/-- Two requests that look the same are pursued to ends that look the same. -/
theorem masked_pursueFor (ready : w.Ready) (look : w.masked v = w'.masked v) (same : r.masked v = r'.masked v)
    (steps : Nat) {phase phase' : Phase} (phases : phase.masked v = phase'.masked v)
    (alike : (pursueFor r steps w phase).2.machine.AnsweredAlike
      (pursueFor r' steps w' phase').2.machine v) :
    (pursueFor r steps w phase).1.masked v = (pursueFor r' steps w' phase').1.masked v ∧
      (pursueFor r steps w phase).2.masked v = (pursueFor r' steps w' phase').2.masked v := by
  induction steps with
  | zero => exact ⟨phases, look⟩
  | succ steps ih =>
    have ready' := ready.of_masked look
    simp only [pursueFor_succ] at alike ⊢
    have readyThen := (steady_pursueFor ready r steps phase).ready ready
    have readyThen' := (steady_pursueFor ready' r' steps phase').ready ready'
    obtain ⟨phases, looks⟩ := ih (alike.of_steady (advance_steady readyThen r _).machine
      (advance_steady readyThen' r' _).machine)
    exact masked_advance readyThen looks same phases alike

/-- A request that was pursued alone waits for no run that ends. -/
theorem due?_pursue (ready : w.Ready) (r : Request) : (w.pursue r .queued).1.due? = none := by
  cases found : w.hosts[r.host]? with
  | none => simp [pursue, stepBound, found, pursueFor, Phase.due?]
  | some host =>
    have stuck := moves_pursue ready found
    generalize (w.pursue r .queued).1 = phase at stuck ⊢
    cases phase with
    | compiling retried c => simpa [Phase.moves, Phase.due?] using stuck
    | _ => rfl

end Workshop

namespace Session

variable {s s' : Session} {r r' : Request}

/-- The user waits for a request that was given to its host, unless it is at its end at once. -/
def waitFor (s : Session) (r : Request) (phase : Phase) : Phase × Session :=
  if phase.isDone then (phase, s) else s.poll.pursueFor r (s.stepBound r) phase

theorem steady_waitFor (ready : s.workshop.Ready) (r : Request) (phase : Phase) :
    s.workshop.Steady (s.waitFor r phase).2.workshop := by
  unfold waitFor
  split
  · exact .refl _
  · exact ((s.leads_poll (some (r, phase))).trans (s.poll.leads_pursueFor r _ phase)).steady ready

theorem masked_waitFor (timed : v.timed = true) (ready : s.workshop.Ready)
    (look : s.masked v = s'.masked v) (same : r.masked v = r'.masked v) {phase phase' : Phase}
    (phases : phase.masked v = phase'.masked v)
    (alike : (s.waitFor r phase).2.workshop.machine.AnsweredAlike
      (s'.waitFor r' phase').2.workshop.machine v) :
    (s.waitFor r phase).1.masked v = (s'.waitFor r' phase').1.masked v ∧
      (s.waitFor r phase).2.masked v = (s'.waitFor r' phase').2.masked v := by
  have done : phase.isDone = phase'.isDone := by
    rw [← phase.isDone_masked v, phases, phase'.isDone_masked]
  have bound : s.stepBound r = s'.stepBound r' := by
    rw [← stepBound_masked (v := v), look, same, stepBound_masked]
  unfold waitFor at alike ⊢
  rw [← done, ← bound] at alike ⊢
  split at alike
  · rename_i ended
    rw [if_pos ended, if_pos ended]
    exact ⟨phases, look⟩
  · rename_i goes
    rw [if_neg goes, if_neg goes]
    have polled {s : Session} (ready : s.workshop.Ready) : s.poll.workshop.Ready :=
      ((s.leads_poll none).steady ready).ready ready
    have onward (r : Request) (phase : Phase) {s : Session} (ready : s.workshop.Ready)
        (steps : Nat) := ((s.poll.leads_pursueFor r steps phase).steady (polled ready)).machine
    have begun := masked_poll timed ready look (alike.of_steady (onward r phase ready _)
      (onward r' phase' (ready.of_masked (workshop_of_masked look)) _))
    exact masked_pursueFor timed (polled ready) begun same _ phases alike

/-- The user comes to the end of two requests that look the same in the same way. Times make no
difference to a user who does not let the tasks work meanwhile. -/
theorem masked_ending {waiting : Bool} (known : waiting = true → v.timed = true)
    (ready : s.workshop.Ready) (look : s.masked v = s'.masked v) (same : r.masked v = r'.masked v)
    (alike : (s.ending r waiting).2.workshop.machine.AnsweredAlike
      (s'.ending r' waiting).2.workshop.machine v) :
    (s.ending r waiting).1.masked v = (s'.ending r' waiting).1.masked v ∧
      (s.ending r waiting).2.masked v = (s'.ending r' waiting).2.masked v := by
  have looks := workshop_of_masked look
  cases waiting with
  | false =>
    have bound : s.workshop.stepBound r = s'.workshop.stepBound r' := by
      show (s.masked v).workshop.stepBound (r.masked v) = (s'.masked v).workshop.stepBound (r'.masked v)
      rw [look, same]
    simp only [ending, Bool.false_eq_true, if_false, Workshop.pursue, ← bound] at alike ⊢
    obtain ⟨phases, workshops⟩ := Workshop.masked_pursueFor ready looks same _ rfl alike
    exact ⟨phases, masked_workshop look workshops⟩
  | true =>
    let given (s : Session) (r : Request) : Session :=
      { s with workshop := (s.workshop.advance r .queued).2 }
    have ended (s : Session) (r : Request) :
        s.ending r true = (given s r).waitFor r (s.workshop.advance r .queued).1 := rfl
    have readyThen {s : Session} (ready : s.workshop.Ready) (r : Request) :
        (given s r).workshop.Ready := (Workshop.advance_steady ready r .queued).ready ready
    have onward {s : Session} (ready : s.workshop.Ready) (r : Request) (phase : Phase) :=
      (steady_waitFor (readyThen ready r) r phase).machine
    rw [ended, ended] at alike ⊢
    obtain ⟨phases, workshops⟩ := Workshop.masked_advance ready looks same rfl
      (alike.of_steady (onward ready r _) (onward (ready.of_masked looks) r' _))
    exact masked_waitFor (known rfl) (readyThen ready r) (masked_workshop look workshops) same phases
      alike

theorem steady_ending (s : Session) (r : Request) (waiting : Bool) :
    (s.ending r waiting).2.workshop.Steady (s.evaluate r waiting).2.workshop := by
  rw [evaluate_eq]
  obtain ⟨phase, s'⟩ := s.ending r waiting
  cases phase with
  | done verdict => exact .refl _
  | _ => exact (Workshop.quiet_abandon ..).steady

/-- **Two requests that look the same are answered in ways that look the same**, and leave what
looks the same, if the compiler answers them alike. -/
theorem masked_evaluate {waiting : Bool} (known : waiting = true → v.timed = true)
    (ready : s.workshop.Ready) (same : r.masked v = r'.masked v)
    (alike : (s.evaluate r waiting).2.workshop.machine.AnsweredAlike
      (s.evaluate r' waiting).2.workshop.machine v) :
    (s.evaluate r waiting).1.map (Evaluation.masked v) =
        (s.evaluate r' waiting).1.map (Evaluation.masked v) ∧
      (s.evaluate r waiting).2.masked v = (s.evaluate r' waiting).2.masked v := by
  -- What a request that is given up has left is no matter of times: its run does not end.
  have stuck (r : Request) : v.timed = true ∨ (s.ending r waiting).1.due? = none := by
    cases waiting with
    | true => exact .inl (known rfl)
    | false => exact .inr (Workshop.due?_pursue ready r)
  obtain ⟨phases, sessions⟩ := masked_ending known ready rfl same
    (alike.of_steady (s.steady_ending r waiting).machine (s.steady_ending r' waiting).machine)
  rw [evaluate_eq, evaluate_eq]
  have given := stuck r
  have given' := stuck r'
  generalize s.ending r waiting = ended at phases sessions given ⊢
  generalize s.ending r' waiting = ended' at phases sessions given' ⊢
  obtain ⟨phase, t⟩ := ended
  obtain ⟨phase', t'⟩ := ended'
  have up : (t.giveUp r phase).masked v = (t'.giveUp r' phase').masked v := by
    rw [masked_giveUp given, masked_giveUp given', sessions, same, phases]
  cases phase with
  | done verdict =>
    cases phase' with
    | done verdict' =>
      have verdicts : verdict.masked v = verdict'.masked v := Phase.done.inj phases
      have names : v.name r.expression = v.name r'.expression := congrArg Request.expression same
      refine ⟨?_, sessions⟩
      show some (⟨v.name r.expression, verdict.masked v⟩ : Evaluation) =
        some ⟨v.name r'.expression, verdict'.masked v⟩
      rw [names, verdicts]
    | _ => simp [Phase.masked] at phases
  | queued =>
    cases phase' with
    | queued => exact ⟨rfl, up⟩
    | _ => simp [Phase.masked] at phases
  | compiling retried c =>
    cases phase' with
    | compiling retried' c' => exact ⟨rfl, up⟩
    | _ => simp [Phase.masked] at phases

theorem steady_evaluate (ready : s.workshop.Ready) (r : Request) (waiting : Bool) :
    s.workshop.Steady (s.evaluate r waiting).2.workshop :=
  ((s.leads_ending r waiting).steady ready).trans (s.steady_ending r waiting)

/-- Two answers, and what they leave, are the same when masked. -/
structure Matches (v : ExpressionMask) (answered answered' : Option Evaluation × Session) : Prop where
  answers : answered.1.map (Evaluation.masked v) = answered'.1.map (Evaluation.masked v)
  sessions : answered.2.masked v = answered'.2.masked v
  /-- There is nothing but expressions and times in which two answers can differ so. -/
  alike : ∀ e e', answered.1 = some e → answered'.1 = some e' →
    e.isSuccess = e'.isSuccess ∧ e.handle = e'.handle ∧ e.warnings = e'.warnings ∧
      e.diagnostics = e'.diagnostics ∧ e.failure? = e'.failure?
  /-- Handles are called with the same values. -/
  values : ∀ handle xs, (answered.2.workshop.callAll handle xs).1 =
    (answered'.2.workshop.callAll handle xs).1

theorem Matches.of_masked {answered answered' : Option Evaluation × Session}
    (answers : answered.1.map (Evaluation.masked v) = answered'.1.map (Evaluation.masked v))
    (sessions : answered.2.masked v = answered'.2.masked v) : Matches v answered answered' where
  answers := answers
  sessions := sessions
  alike e e' given given' := by
    rw [given, given'] at answers
    have look : e.masked v = e'.masked v := Option.some.inj answers
    refine ⟨?_, ?_, ?_, ?_, ?_⟩
    · rw [← e.isSuccess_masked v, look, e'.isSuccess_masked]
    · rw [← e.handle_masked v, look, e'.handle_masked]
    · rw [← e.warnings_masked v, look, e'.warnings_masked]
    · rw [← e.diagnostics_masked v, look, e'.diagnostics_masked]
    · rw [← e.failure?_masked v, look, e'.failure?_masked]
  values handle xs := by
    have called (s : Session) :
        (s.workshop.callAll handle xs).1 = ((s.workshop.masked v).callAll handle xs).1 := by
      rw [Workshop.masked_callAll]
    rw [called, called answered'.2, workshop_of_masked sessions]

end Session

namespace Moment

open Workshop (Furnished)

variable {w : Workshop}

/-- **No expression is looked into.** Units that are made of one template and one pair of names with
two expressions differ in nothing but their sources. If at any moment of a session two expressions
are given to one host, and the compiler answers the two requests alike at each attempt, then the
answers, each with its own expression, and what they leave differ in nothing but the expressions.
The times that the runs take need not be the same, unless the user lets the tasks work meanwhile. And
if whole histories differ in nothing but the expressions, so does what they lead to. -/
theorem indifference_exact (furnished : w.Furnished) :
    (∀ (template : Template) (names : UnitNames) (expression expression' : String),
      let unit := SourceUnit.fill template names expression
      let unit' := SourceUnit.fill template names expression'
      unit' = { unit with source := unit'.source } ∧ unit.names = names ∧
        unit'.names.qualified = unit.names.qualified ∧ unit'.names.crate = unit.names.crate ∧
        unit'.start.line = unit.start.line ∧ unit'.start.column = unit.start.column) ∧
      (∀ earlier s, (first w).after earlier = ⟨s, none⟩ →
        (∀ r waiting e, (s.evaluate r waiting).1 = some e → e.expression = r.expression) ∧
          ∀ (host : Nat) (expression expression' : String) (waiting : Bool) (v : ExpressionMask),
            v.name expression = v.name expression' → (waiting = true → v.timed = true) →
              (s.evaluate ⟨host, expression⟩ waiting).2.workshop.machine.AnsweredAlike
                (s.evaluate ⟨host, expression'⟩ waiting).2.workshop.machine v →
                  Session.Matches v (s.evaluate ⟨host, expression⟩ waiting)
                    (s.evaluate ⟨host, expression'⟩ waiting)) ∧
        ∀ (v : ExpressionMask) (events events' : List Event), v.timed = true →
          events.map (Event.masked v) = events'.map (Event.masked v) →
            ((first w).after events).session.workshop.machine.AnsweredAlike
              ((first w).after events').session.workshop.machine v →
                ((first w).after events).masked v = ((first w).after events').masked v := by
  refine ⟨fun template names expression expression' => ⟨rfl, rfl, rfl, rfl, rfl, rfl⟩, ?_,
    fun v events events' timed same alike => masked_after timed furnished.ready rfl same alike⟩
  intro earlier s reached
  refine ⟨fun r waiting e answered => (Session.ending_of_evaluate (Prod.ext answered rfl)).2, ?_⟩
  intro host expression expression' waiting v names timed alike
  have ready : s.workshop.Ready := by
    have ready := (steady_after furnished earlier).ready furnished.ready
    rwa [reached] at ready
  have same : Request.masked v ⟨host, expression⟩ = Request.masked v ⟨host, expression'⟩ :=
    congrArg (Request.mk host) names
  obtain ⟨answers, sessions⟩ := Session.masked_evaluate timed ready same alike
  exact .of_masked answers sessions

/-- An expression that looks like a placeholder, and one that is empty. -/
theorem indifference_of_flaky :
    let w : Workshop := .bare flaky 3
    let s : Session := { workshop := w }
    let v : ExpressionMask := ⟨fun _ => "", true⟩
    (∃ e e', (s.evaluate ⟨0, "x"⟩ true).1 = some e ∧
      (s.evaluate ⟨0, "$expression\n"⟩ true).1 = some e' ∧
        e.expression = "x" ∧ e'.expression = "$expression\n" ∧ e.handle = e'.handle) ∧
      ((first w).after [.submit "x" "a", .proceed 0]).masked v =
        ((first w).after [.submit "" "a", .proceed 0]).masked v := by
  intro w s v
  have furnished : w.Furnished := Workshop.furnished_bare flaky 3
  have counts {earlier earlier' : List Attempt} (call call' : Call)
      (length : earlier.length = earlier'.length) : flaky earlier call = flaky earlier' call' := by
    cases earlier <;> cases earlier' <;> first | rfl | simp at length
  have tool (r : Request) : (s.evaluate r true).2.workshop.machine.tool = w.machine.tool :=
    (s.steady_evaluate furnished.ready r true).machine.tool
  have alike (r r' : Request) : (s.evaluate r true).2.workshop.machine.AnsweredAlike
      (s.evaluate r' true).2.workshop.machine v :=
    Machine.alike_of_counting ((tool r').trans (tool r).symm) (by rw [tool]; exact counts)
  have tool' (events : List Event) :
      ((first w).after events).session.workshop.machine.tool = w.machine.tool :=
    (steady_after furnished events).machine.tool
  obtain ⟨-, evaluations, histories⟩ := indifference_exact furnished
  obtain ⟨echoed, matched⟩ := evaluations [] s rfl
  have matched := matched 0 "x" "$expression\n" true v rfl (fun _ => rfl) (alike _ _)
  obtain ⟨e, answer⟩ : ∃ e, (s.evaluate ⟨0, "x"⟩ true).1 = some e :=
    Option.isSome_iff_exists.1 (by decide +kernel)
  obtain ⟨e', answer'⟩ : ∃ e', (s.evaluate ⟨0, "$expression\n"⟩ true).1 = some e' :=
    Option.isSome_iff_exists.1 (by decide +kernel)
  refine ⟨⟨e, e', answer, answer', echoed _ _ e answer, echoed _ _ e' answer',
    (matched.alike e e' answer answer').2.1⟩, histories v _ _ rfl rfl ?_⟩
  exact Machine.alike_of_counting ((tool' _).trans (tool' _).symm) (by rw [tool']; exact counts)

end Moment

end Plotter
