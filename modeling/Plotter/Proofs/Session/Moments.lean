import Plotter.Session.Command

/-!
# Sessions from moment to moment

The commands of a session take large steps: a user who waits lets the tasks work in an order
that the session chooses. Here a session is taken apart into the events of which the commands
are made, and the events may follow one another in any order: a request is submitted, a task
stops or goes on by one step, a handle is called or copied, a host is let go of, time passes.

A moment is a session together with the request that its user waits for, if there is one; such
a request goes on by steps too, and any number of other events may come between two of them.

## What is proved

* `Session.reclaims_run`, `Session.reaches_run`: lists of commands are made of events, and let go of
  what is not needed in the last of them. What holds at each moment, whatever the events before it,
  holds of each session that commands lead to.
-/

namespace Plotter

/-- A session, and how far the request has come that its user waits for. -/
structure Moment where
  session : Session
  awaited : Option (Request × Phase) := none

/-- The first moment of a session with a workshop. -/
def Moment.first (w : Workshop) : Moment := { session := { workshop := w } }

/-- What can happen in a session. -/
inductive Event
  /-- A background request comes in. -/
  | submit (expression label : String)
  /-- The background request in flight is cancelled. -/
  | cancel
  /-- A task that was told to stop does so. -/
  | stop (ticket : Nat)
  /-- A task goes on by one step. -/
  | proceed (ticket : Nat)
  /-- The outcome of a finished task is taken, and its handle put into a slot. -/
  | collect (ticket : Nat) (slot : Option String)
  /-- The user asks a host, and waits. -/
  | ask (request : Request)
  /-- The request that the user waits for goes on by one step. -/
  | pursue
  /-- The user has the answer, and puts its handle into a slot. -/
  | answer (slot : Option String)
  /-- The user gives up the request. -/
  | forsake
  /-- The handle in a slot is called. -/
  | call (slot : String) (x : Float)
  /-- The handle in one slot is put into another too. -/
  | copy (source target : String)
  /-- A slot is emptied. -/
  | clear (slot : String)
  /-- The files of the machine change. -/
  | edit (files : Files)
  /-- A host is let go of. -/
  | dropHost (number : Nat)
  /-- The user looks at the calls of the compiler. -/
  | look
  /-- Time passes. -/
  | wait (time : Nat)
  /-- What the runs that are over have left is there. -/
  | land
  /-- What is not needed is let go of, unless the user waits. -/
  | reclaim

/-- Whether the user asks a host in an event. -/
def Event.isAsk : Event → Bool
  | .ask _ => true
  | _ => false

/-- Take the outcome of a finished task, and put its handle into a slot. -/
def Session.collect (s : Session) (ticket : Nat) (slot : Option String) : Session :=
  match s.take ticket with
  | (some (.ready e), s) => s.keep e slot
  | (_, s) => s

/-- Taking an outcome removes its task. -/
theorem Session.collect_eq (s : Session) (ticket : Nat) (slot : Option String) :
    s.collect ticket slot =
      match (s.task? ticket).bind Task.outcome? with
      | some (.ready e) =>
        { s with tasks := s.tasks.filter fun t => t.ticket != ticket }.keep e slot
      | some .superseded => { s with tasks := s.tasks.filter fun t => t.ticket != ticket }
      | none => s := by
  unfold collect take
  cases (s.task? ticket).bind Task.outcome? with
  | none => rfl
  | some outcome => cases outcome <;> rfl

namespace Moment

/-- What an event makes of a moment. An event that cannot happen changes nothing. -/
def react (m : Moment) : Event → Moment
  | .submit expression label => { m with session := m.session.submit expression label }
  | .cancel => { m with session := m.session.cancel.2 }
  | .stop ticket => { m with session := m.session.stop ticket }
  | .proceed ticket => { m with session := m.session.proceed ticket }
  | .collect ticket slot => { m with session := m.session.collect ticket slot }
  | .ask request =>
    match m.awaited with
    | none => { m with awaited := some (request, .queued) }
    | some _ => m
  | .pursue =>
    match m.awaited with
    | none => m
    | some (r, phase) =>
      let (phase, workshop) := m.session.workshop.advance r phase
      ⟨{ m.session with workshop }, some (r, phase)⟩
  | .answer slot =>
    match m.awaited with
    | some (r, .done verdict) => ⟨m.session.keep ⟨r.expression, verdict⟩ slot, none⟩
    | _ => m
  | .forsake =>
    match m.awaited with
    | none => m
    | some (r, phase) => ⟨m.session.giveUp r phase, none⟩
  | .call slot x =>
    { m with session.workshop := (m.session.workshop.call (m.session.slot slot) x).2 }
  | .copy source target =>
    { m with session := m.session.setSlot target (m.session.slot source) }
  | .clear slot => { m with session := m.session.clearSlot slot }
  | .edit files => { m with session.workshop.machine.files := files }
  | .dropHost number => { m with session := m.session.dropHost number }
  | .look => { m with session.seen := m.session.started }
  | .wait time =>
    { m with session.workshop.machine := m.session.workshop.machine.waitUntil time }
  | .land => { m with session := m.session.land }
  | .reclaim =>
    match m.awaited with
    | none => { m with session := m.session.reclaim }
    | some _ => m

/-- What a list of events makes of a moment. -/
def after (m : Moment) (events : List Event) : Moment := events.foldl react m

@[simp] theorem after_nil (m : Moment) : m.after [] = m := rfl

@[simp] theorem after_cons (m : Moment) (e : Event) (es : List Event) :
    m.after (e :: es) = (m.react e).after es := rfl

@[simp] theorem after_append (m : Moment) (es fs : List Event) :
    m.after (es ++ fs) = (m.after es).after fs := List.foldl_append

/-- Some events lead from one moment to another, and the user asks no host in them. -/
def Leads (m m' : Moment) : Prop := ∃ events, (∀ e ∈ events, e.isAsk = false) ∧ m.after events = m'

theorem Leads.refl (m : Moment) : Leads m m := ⟨[], by simp, rfl⟩

theorem Leads.trans {m₁ m₂ m₃ : Moment} (h₁ : Leads m₁ m₂) (h₂ : Leads m₂ m₃) : Leads m₁ m₃ := by
  obtain ⟨es, unasked, rfl⟩ := h₁
  obtain ⟨fs, unasked', rfl⟩ := h₂
  refine ⟨es ++ fs, fun e member => ?_, after_append m₁ es fs⟩
  rcases List.mem_append.1 member with member | member
  · exact unasked e member
  · exact unasked' e member

theorem Leads.one {m m' : Moment} (e : Event) (unasked : e.isAsk = false) (h : m.react e = m') :
    Leads m m' :=
  ⟨[e], by simpa using unasked, h⟩

/-- Some events lead from one moment to another. -/
def Reaches (m m' : Moment) : Prop := ∃ events, m.after events = m'

theorem Leads.reaches {m m' : Moment} (h : Leads m m') : Reaches m m' := by
  obtain ⟨events, -, same⟩ := h
  exact ⟨events, same⟩

theorem Reaches.trans {m₁ m₂ m₃ : Moment} (h₁ : Reaches m₁ m₂) (h₂ : Reaches m₂ m₃) :
    Reaches m₁ m₃ := by
  obtain ⟨es, rfl⟩ := h₁
  obtain ⟨fs, rfl⟩ := h₂
  exact ⟨es ++ fs, after_append m₁ es fs⟩

/-- What every event preserves, every list of events does. -/
theorem after_induction {P : Moment → Prop} (step : ∀ m e, P m → P (m.react e)) {m : Moment}
    (start : P m) (events : List Event) : P (m.after events) := by
  induction events generalizing m with
  | nil => exact start
  | cons e es ih => exact ih (step m e start)

end Moment

namespace Session

open Moment (Leads Reaches)

variable (s : Session) (awaited : Option (Request × Phase))

/-! ### Tasks at work -/

theorem leads_pollTask (ticket : Nat) : Leads ⟨s, awaited⟩ ⟨s.pollTask ticket, awaited⟩ := by
  unfold pollTask
  split
  · exact .one (.stop ticket) rfl rfl
  · exact .one (.proceed ticket) rfl rfl
  · exact .refl _

theorem leads_pollTasks (tickets : List Nat) :
    Leads ⟨s, awaited⟩ ⟨tickets.foldl pollTask s, awaited⟩ := by
  induction tickets generalizing s with
  | nil => exact .refl _
  | cons ticket tickets ih => exact (s.leads_pollTask awaited ticket).trans (ih _)

theorem leads_poll : Leads ⟨s, awaited⟩ ⟨s.poll, awaited⟩ := s.leads_pollTasks awaited _

theorem leads_driveFor (ticket : Nat) (enough : Session → Bool) (steps : Nat) :
    Leads ⟨s, awaited⟩ ⟨driveFor ticket enough steps s, awaited⟩ := by
  induction steps generalizing s with
  | zero => exact .refl _
  | succ steps ih =>
    unfold driveFor
    split
    · exact .refl _
    · split
      · split
        · split
          · exact Leads.trans (.one (.proceed ticket) rfl rfl) (ih _)
          · exact .refl _
        · exact .refl _
      · exact .refl _

theorem leads_drive (ticket : Nat) (enough : Session → Bool) :
    Leads ⟨s, awaited⟩ ⟨s.drive ticket enough, awaited⟩ := by
  unfold drive
  split
  · exact leads_driveFor ..
  · exact .refl _

theorem leads_await (ticket : Nat) : Leads ⟨s, awaited⟩ ⟨s.await ticket, awaited⟩ := by
  unfold await
  split
  · exact .refl _
  · exact (s.leads_poll awaited).trans (leads_drive ..)

theorem leads_awaitStarted (count : Nat) :
    Leads ⟨s, awaited⟩ ⟨s.awaitStarted count, awaited⟩ := by
  simp only [awaitStarted]
  split
  · exact .refl _
  · refine (s.leads_poll awaited).trans ?_
    split
    · exact leads_drive ..
    · exact .refl _

/-! ### The request that the user waits for -/

theorem leads_pursue (r : Request) (phase : Phase) :
    Leads ⟨s, some (r, phase)⟩
      ⟨{ s with workshop := (s.workshop.advance r phase).2 },
        some (r, (s.workshop.advance r phase).1)⟩ :=
  .one .pursue rfl rfl

theorem leads_workshop_pursueFor (r : Request) (steps : Nat) (phase : Phase) :
    Leads ⟨s, some (r, phase)⟩
      ⟨{ s with workshop := (Workshop.pursueFor r steps s.workshop phase).2 },
        some (r, (Workshop.pursueFor r steps s.workshop phase).1)⟩ := by
  induction steps generalizing s phase with
  | zero => exact .refl _
  | succ steps ih =>
    unfold Workshop.pursueFor
    split
    · exact (s.leads_pursue r phase).trans
        (ih { s with workshop := (s.workshop.advance r phase).2 } _)
    · exact .refl _

theorem leads_pursueFor (r : Request) (steps : Nat) (phase : Phase) :
    Leads ⟨s, some (r, phase)⟩
      ⟨(s.pursueFor r steps phase).2, some (r, (s.pursueFor r steps phase).1)⟩ := by
  induction steps generalizing s phase with
  | zero => exact .refl _
  | succ steps ih =>
    unfold pursueFor
    split
    · exact .refl _
    · split
      · rename_i t _
        exact Leads.trans (.one (.proceed t.ticket) rfl rfl) (ih _ _)
      · exact (s.leads_pursue r phase).trans
          (ih { s with workshop := (s.workshop.advance r phase).2 } _)

/-- How far a request that the user waits for has come when its answer is there, or when the
user gives it up, and the session then. -/
def ending (s : Session) (r : Request) (waiting : Bool) : Phase × Session :=
  if waiting then
    let (phase, workshop) := s.workshop.advance r .queued
    let s := { s with workshop }
    if phase.isDone then (phase, s) else s.poll.pursueFor r (s.stepBound r) phase
  else
    let (phase, workshop) := s.workshop.pursue r .queued
    (phase, { s with workshop })

theorem evaluate_eq (r : Request) (waiting : Bool) :
    s.evaluate r waiting =
      match s.ending r waiting with
      | (.done verdict, s) => (some ⟨r.expression, verdict⟩, s)
      | (phase, s) => (none, s.giveUp r phase) := by
  cases waiting with
  | false =>
    simp only [evaluate, ending, Workshop.evaluate, Bool.false_eq_true, if_false]
    generalize s.workshop.pursue r .queued = ended
    obtain ⟨phase, workshop⟩ := ended
    cases phase <;> rfl
  | true =>
    simp only [evaluate, ending, evaluateWaiting, if_true]
    cases (s.workshop.advance r .queued).1.isDone with
    | true =>
      simp only [if_true]
      cases (s.workshop.advance r .queued).1 <;> rfl
    | false =>
      simp only [Bool.false_eq_true, if_false]
      generalize pursueFor r _ _ _ = ended
      obtain ⟨phase, s'⟩ := ended
      cases phase <;> rfl

/-- The user has an answer only to a request that is at its end. -/
theorem ending_of_evaluate {s s' : Session} {r : Request} {waiting : Bool} {e : Evaluation}
    (answered : s.evaluate r waiting = (some e, s')) :
    s.ending r waiting = (.done e.verdict, s') ∧ e.expression = r.expression := by
  rw [evaluate_eq] at answered
  generalize s.ending r waiting = ended at answered
  obtain ⟨phase, s''⟩ := ended
  cases phase with
  | done verdict =>
    obtain ⟨same, rfl⟩ := Prod.mk.inj answered
    obtain rfl := Option.some.inj same
    exact ⟨rfl, rfl⟩
  | queued => simp at answered
  | compiling retried c => simp at answered

theorem ending_of_evaluate_none {s : Session} {r : Request} {waiting : Bool}
    (unanswered : (s.evaluate r waiting).1 = none) :
    (s.ending r waiting).1.isDone = false ∧
      (s.evaluate r waiting).2 = (s.ending r waiting).2.giveUp r (s.ending r waiting).1 := by
  rw [evaluate_eq] at unanswered ⊢
  generalize s.ending r waiting = ended at unanswered
  obtain ⟨phase, s'⟩ := ended
  cases phase with
  | done verdict => simp at unanswered
  | queued => exact ⟨rfl, rfl⟩
  | compiling retried c => exact ⟨rfl, rfl⟩

/-- A request that the user waits for is pursued until its answer is there, or given up. -/
theorem leads_ending (r : Request) (waiting : Bool) :
    Leads ⟨s, some (r, .queued)⟩
      ⟨(s.ending r waiting).2, some (r, (s.ending r waiting).1)⟩ := by
  cases waiting with
  | false => exact s.leads_workshop_pursueFor r (s.workshop.stepBound r) .queued
  | true =>
    have begun := s.leads_pursue r .queued
    simp only [ending, if_true]
    split
    · exact begun
    · exact begun.trans ((leads_poll _ _).trans (leads_pursueFor _ r _ _))

/-! ### Calls -/

theorem leads_callAll (slot : String) (xs : List Float) :
    Leads ⟨s, awaited⟩
      ⟨{ s with workshop := (s.workshop.callAll (s.slot slot) xs).2 }, awaited⟩ := by
  induction xs generalizing s with
  | nil => exact .refl _
  | cons x xs ih =>
    rw [Workshop.callAll_cons]
    exact Leads.trans (.one (.call slot x) rfl rfl)
      (ih { s with workshop := (s.workshop.call (s.slot slot) x).2 })

theorem leads_dropHosts : Leads ⟨s, awaited⟩ ⟨s.dropHosts, awaited⟩ := by
  unfold dropHosts
  generalize List.range s.workshop.hosts.length = numbers
  induction numbers generalizing s with
  | nil => exact .refl _
  | cons number numbers ih => exact Leads.trans (.one (.dropHost number) rfl rfl) (ih _)

/-! ### Commands -/

theorem reaches_evaluate (r : Request) (waiting : Bool) (slot : Option String) :
    Reaches ⟨s, none⟩ ⟨(s.act (.evaluate r waiting slot)).2, none⟩ := by
  have asked : Reaches ⟨s, none⟩ ⟨s, some (r, .queued)⟩ := ⟨[.ask r], rfl⟩
  have pursued := asked.trans (s.leads_ending r waiting).reaches
  simp only [act, evaluate_eq]
  split
  · generalize s.ending r waiting = ended at pursued
    obtain ⟨phase, s'⟩ := ended
    cases phase with
    | done verdict => exact pursued.trans ⟨[.answer slot], rfl⟩
    | queued => exact pursued.trans ⟨[.forsake], rfl⟩
    | compiling retried c => exact pursued.trans ⟨[.forsake], rfl⟩
  · exact ⟨[], rfl⟩

theorem leads_act (c : Command) (other : ∀ r waiting slot, c ≠ .evaluate r waiting slot) :
    Leads ⟨s, none⟩ ⟨(s.act c).2, none⟩ := by
  cases c with
  | evaluate r waiting slot => exact absurd rfl (other r waiting slot)
  | call slot xs => exact s.leads_callAll none slot xs
  | sample slot domain => exact s.leads_callAll none slot domain.points
  | copy source target => exact .one (.copy source target) rfl rfl
  | drop slot => exact .one (.clear slot) rfl rfl
  | same a b => exact .refl _
  | distinct a b => exact .refl _
  | unit slot => exact .refl _
  | issued => exact .refl _
  | scratch =>
    simp only [act]
    split <;> exact .refl _
  | calls => exact .one .look rfl rfl
  | edit change =>
    simp only [act]
    split
    · rename_i files _
      exact .one (.edit files) rfl rfl
    · exact .refl _
  | dropHosts => exact s.leads_dropHosts none
  | dropHost number => exact .one (.dropHost number) rfl rfl
  | submit expression label =>
    simp only [act]
    split
    · exact .one (.submit expression label) rfl rfl
    · exact .refl _
  | awaitStarted count => exact s.leads_awaitStarted none count
  | settle label =>
    simp only [act]
    split
    · exact leads_await ..
    · exact .refl _
  | finished label =>
    simp only [act]
    split <;> exact .refl _
  | cancel =>
    simp only [act]
    split
    · exact .one .cancel rfl rfl
    · exact .refl _
  | outcome label slot =>
    simp only [act]
    split
    · exact .refl _
    · rename_i ticket _
      refine (s.leads_await none ticket).trans (.one (.collect ticket slot) rfl ?_)
      simp only [Moment.react, collect]
      generalize (s.await ticket).take ticket = taken
      rcases taken with ⟨_ | ⟨e⟩ | _, s'⟩ <;> rfl

/-- **Commands are made of events**, and let go of what is not needed in the last of them. -/
theorem reclaims_step (c : Command) :
    ∃ events, (⟨s, none⟩ : Moment).after (events ++ [.reclaim]) = ⟨(s.step c).2, none⟩ := by
  have acted : Reaches ⟨s, none⟩ ⟨(s.act c).2, none⟩ := by
    cases c with
    | evaluate r waiting slot => exact s.reaches_evaluate r waiting slot
    | _ => exact (s.leads_act _ (by simp)).reaches
  obtain ⟨events, same⟩ := acted
  refine ⟨events ++ [.land], ?_⟩
  rw [Moment.after_append, Moment.after_append, same]
  rfl

/-- Lists of commands are made of events, and let go of what is not needed in the last of them. -/
theorem reclaims_run (c : Command) (cs : List Command) :
    ∃ events, (⟨s, none⟩ : Moment).after (events ++ [.reclaim]) = ⟨(s.run (c :: cs)).2, none⟩ := by
  have after (before : List Answer) : ∃ events,
      (⟨s, none⟩ : Moment).after (events ++ [.reclaim]) =
        ⟨(runAfter before s (c :: cs)).2, none⟩ := by
    induction cs generalizing s c before with
    | nil => exact s.reclaims_step c
    | cons next cs ih =>
      obtain ⟨es, first⟩ := s.reclaims_step c
      obtain ⟨fs, later⟩ := ih (s.step c).2 next ((s.step c).1 :: before)
      refine ⟨es ++ [.reclaim] ++ fs, ?_⟩
      rw [List.append_assoc _ fs, Moment.after_append, first]
      exact later
  exact after []

/-- What holds at every moment holds of the sessions that commands lead to. -/
theorem reaches_run (cs : List Command) : Reaches ⟨s, none⟩ ⟨(s.run cs).2, none⟩ := by
  cases cs with
  | nil => exact ⟨[], rfl⟩
  | cons c cs =>
    obtain ⟨events, same⟩ := s.reclaims_run c cs
    exact ⟨_, same⟩

end Session

end Plotter
