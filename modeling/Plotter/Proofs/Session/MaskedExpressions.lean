import Plotter.Proofs.Host.MaskedExpressions
import Plotter.Proofs.Session.Clients

/-!
# Sessions with masked expressions

Whatever the user of a session does, and whatever the tasks do but to call the compiler, can as well
be done with the expressions masked. The times must be kept: what becomes of a task that is told to
stop, and which of several tasks goes on first, is a matter of times.

## What is proved

* `Moment.masked_react`: an event that is no step of a request does the same where expressions are
  masked.
-/

namespace Plotter

variable (v : ExpressionMask)

def TaskState.masked : TaskState → TaskState
  | .live phase => .live (phase.masked v)
  | .stopping phase => .stopping (phase.masked v)
  | .superseded => .superseded

def Task.masked (t : Task) : Task :=
  { t with request := t.request.masked v, state := t.state.masked v }

/-- A session with the expressions masked. -/
def Session.masked (s : Session) : Session :=
  { s with workshop := s.workshop.masked v, tasks := s.tasks.map (Task.masked v) }

def Evaluation.masked (e : Evaluation) : Evaluation := ⟨v.name e.expression, e.verdict.masked v⟩

def Outcome.masked : Outcome → Outcome
  | .ready e => .ready (e.masked v)
  | .superseded => .superseded

def Moment.masked (m : Moment) : Moment :=
  ⟨m.session.masked v, m.awaited.map fun (r, phase) => (r.masked v, phase.masked v)⟩

/-- An event without its expression. The times until which the user waits are seen. -/
def Event.masked : Event → Event
  | .submit expression label => .submit (v.name expression) label
  | .ask r => .ask (r.masked v)
  | e => e

/-! ### Evaluations -/

namespace Evaluation

variable (e : Evaluation)

@[simp] theorem failure?_masked : (e.masked v).failure? = e.failure? := by
  obtain ⟨expression, verdict⟩ := e
  cases verdict <;> rfl

@[simp] theorem isSuccess_masked : (e.masked v).isSuccess = e.isSuccess := by
  rw [isSuccess, failure?_masked, isSuccess]

@[simp] theorem handle_masked : (e.masked v).handle = e.handle := by
  obtain ⟨expression, verdict⟩ := e
  cases verdict <;> rfl

@[simp] theorem warnings_masked : (e.masked v).warnings = e.warnings := by
  obtain ⟨expression, verdict⟩ := e
  cases verdict <;> rfl

@[simp] theorem diagnostics_masked : (e.masked v).diagnostics = e.diagnostics := by
  obtain ⟨expression, verdict⟩ := e
  cases verdict <;> rfl

end Evaluation

variable {v}

/-! ### Tasks -/

@[simp] theorem TaskState.isFinished_masked (state : TaskState) :
    (state.masked v).isFinished = state.isFinished := by
  cases state <;> simp [masked, isFinished]

@[simp] theorem TaskState.handle_masked (state : TaskState) :
    (state.masked v).handle = state.handle := by
  cases state with
  | live phase =>
    cases phase with
    | done verdict => exact Evaluation.handle_masked v ⟨"", verdict⟩
    | _ => rfl
  | _ => rfl

theorem TaskState.stop_masked (state : TaskState) : (state.masked v).stop = state.stop.masked v := by
  cases state with
  | live phase => cases phase <;> rfl
  | _ => rfl

theorem Phase.due?_masked (timed : v.timed = true) (phase : Phase) :
    (phase.masked v).due? = phase.due? := by
  obtain ⟨name, rfl⟩ := ExpressionMask.eq_of_timed timed
  cases phase with
  | compiling retried c =>
    obtain ⟨unit, response, began⟩ := c
    cases response with
    | unstarted fault => rfl
    | started course killed => cases course <;> rfl
  | _ => rfl

theorem Task.due?_masked (timed : v.timed = true) (t : Task) : (t.masked v).due? = t.due? := by
  obtain ⟨ticket, label, request, state⟩ := t
  cases state with
  | live phase => exact phase.due?_masked timed
  | _ => rfl

theorem Task.outcome?_masked (t : Task) : (t.masked v).outcome? = t.outcome?.map (Outcome.masked v) := by
  obtain ⟨ticket, label, request, state⟩ := t
  cases state with
  | live phase => cases phase <;> rfl
  | _ => rfl

namespace Session

variable {s s' : Session}

theorem task?_masked (n : Nat) : (s.masked v).task? n = (s.task? n).map (Task.masked v) := by
  show (s.tasks.map (Task.masked v)).find? _ = _
  rw [List.find?_map]
  rfl

theorem masked_tasks (tasks : List Task) :
    ({ s with tasks } : Session).masked v = { s.masked v with tasks := tasks.map (Task.masked v) } := rfl

theorem map_masked {f g : Task → Task} (h : ∀ t, (f t).masked v = g (t.masked v)) (tasks : List Task) :
    (tasks.map f).map (Task.masked v) = (tasks.map (Task.masked v)).map g := by
  rw [List.map_map, List.map_map]
  exact List.map_congr_left fun t _ => h t

theorem filter_masked {f g : Task → Bool} (h : ∀ t, f t = g (t.masked v)) (tasks : List Task) :
    (tasks.filter f).map (Task.masked v) = (tasks.map (Task.masked v)).filter g := by
  rw [List.filter_map]
  exact congrArg (List.map _) (List.filter_congr fun t _ => h t)

theorem masked_setState (n : Nat) (state : TaskState) :
    (s.setState n state).masked v = (s.masked v).setState n (state.masked v) := by
  let set (t : Task) : Task := if t.ticket = n then { t with state := state.masked v } else t
  rw [setState, masked_tasks, map_masked (g := set)]
  · rfl
  · intro t
    show _ = if t.ticket = n then _ else _
    split <;> rfl

theorem masked_stopInFlight : s.stopInFlight.masked v = (s.masked v).stopInFlight := by
  let told (t : Task) : Task :=
    if s.inFlight = some t.ticket then { t with state := t.state.stop } else t
  have stopped (t : Task) : (told t).masked v = told (t.masked v) := by
    show (told t).masked v = if s.inFlight = some t.ticket then _ else _
    simp only [told]
    split
    · exact congrArg (fun state => { t.masked v with state }) t.state.stop_masked.symm
    · rfl
  exact congrArg (fun tasks => { s.masked v with inFlight := none, tasks }) (map_masked stopped s.tasks)

theorem masked_submit (expression label : String) :
    (s.submit expression label).masked v = (s.masked v).submit (v.name expression) label := by
  let unlabelled (t : Task) : Task := if t.label = some label then { t with label := none } else t
  have older (t : Task) : (unlabelled t).masked v = unlabelled (t.masked v) := by
    show (unlabelled t).masked v = if t.label = some label then _ else _
    simp only [unlabelled]
    split <;> rfl
  rw [submit, submit, ← masked_stopInFlight]
  generalize s.stopInFlight = s
  let new : Task := ⟨s.submitted, some label, ⟨0, expression⟩, .live .queued⟩
  have tasks : (s.tasks.map unlabelled ++ [new]).map (Task.masked v) =
      (s.tasks.map (Task.masked v)).map unlabelled ++ [new.masked v] := by
    rw [List.map_append, map_masked older]
    rfl
  exact congrArg (fun tasks => { s.masked v with
    tasks, submitted := s.submitted + 1, inFlight := some s.submitted }) tasks

theorem masked_stopTask (timed : v.timed = true) (t : Task) :
    (s.stopTask t).masked v = (s.masked v).stopTask (t.masked v) := by
  obtain ⟨ticket, label, request, state⟩ := t
  cases state with
  | stopping phase =>
    simp only [stopTask, masked_setState]
    exact congrArg
      (fun workshop => ({ s.masked v with workshop } : Session).setState ticket .superseded)
      (Workshop.masked_abandon (.inl timed))
  | _ => rfl

theorem masked_stop (timed : v.timed = true) (n : Nat) : (s.stop n).masked v = (s.masked v).stop n := by
  rw [stop, stop, task?_masked]
  cases s.task? n with
  | none => rfl
  | some t => exact masked_stopTask timed t

theorem masked_giveUp {r : Request} {phase : Phase}
    (known : v.timed = true ∨ phase.due? = none) :
    (s.giveUp r phase).masked v = (s.masked v).giveUp (r.masked v) (phase.masked v) :=
  congrArg (fun workshop => { s.masked v with workshop }) (Workshop.masked_abandon known)

theorem masked_keep (e : Evaluation) (slot : Option String) :
    (s.keep e slot).masked v = (s.masked v).keep (e.masked v) slot := by
  obtain ⟨expression, verdict⟩ := e
  cases slot <;> cases verdict <;> rfl

theorem outcome?_masked (n : Nat) : ((s.masked v).task? n).bind Task.outcome? =
    ((s.task? n).bind Task.outcome?).map (Outcome.masked v) := by
  rw [task?_masked]
  cases s.task? n with
  | none => rfl
  | some t => exact t.outcome?_masked

theorem masked_collect (n : Nat) (slot : Option String) :
    (s.collect n slot).masked v = (s.masked v).collect n slot := by
  have left : ({ s with tasks := s.tasks.filter fun t => t.ticket != n } : Session).masked v =
      { s.masked v with tasks := (s.masked v).tasks.filter fun t => t.ticket != n } :=
    congrArg (fun tasks => { s.masked v with tasks }) (filter_masked (f := fun t => t.ticket != n)
      (g := fun t => t.ticket != n) (fun _ => rfl) s.tasks)
  rw [collect_eq, collect_eq, outcome?_masked]
  cases (s.task? n).bind Task.outcome? with
  | none => rfl
  | some outcome =>
    cases outcome with
    | ready e =>
      rw [Option.map_some, Outcome.masked, ← left]
      exact masked_keep e slot
    | superseded => exact left

theorem masked_landAll (timed : v.timed = true) (tasks : List Task) (w : Workshop) :
    (tasks.foldl
      (fun w t => match t.state.phase? with
        | some phase => w.land t.request phase
        | none => w) w).masked v =
      (tasks.map (Task.masked v)).foldl
        (fun w t => match t.state.phase? with
          | some phase => w.land t.request phase
          | none => w) (w.masked v) := by
  induction tasks generalizing w with
  | nil => rfl
  | cons t tasks ih =>
    rw [List.foldl_cons, List.map_cons, List.foldl_cons, ih]
    congr 1
    obtain ⟨ticket, label, request, state⟩ := t
    cases state with
    | superseded => rfl
    | live phase => exact Workshop.masked_land timed phase
    | stopping phase => exact Workshop.masked_land timed phase

theorem masked_land (timed : v.timed = true) : s.land.masked v = (s.masked v).land :=
  congrArg (fun workshop => { s.masked v with workshop }) (masked_landAll timed s.tasks s.workshop)

theorem masked_dropTasks : s.dropTasks.masked v = (s.masked v).dropTasks :=
  congrArg (fun tasks => { s.masked v with tasks })
    (filter_masked (fun t => by simp [Task.masked]) s.tasks)

theorem uses_masked : (s.masked v).uses = s.uses := by
  have handles : (s.masked v).handles = s.handles := by
    simp [handles, masked, Task.masked, Function.comp_def]
  funext number
  rw [uses, uses, handles]

theorem masked_releaseInstances : s.releaseInstances.masked v = (s.masked v).releaseInstances := by
  rw [releaseInstances, releaseInstances, uses_masked]
  exact congrArg (fun workshop => { s.masked v with workshop }) (Workshop.masked_release s.uses)

theorem masked_closeAll (unneeded : List (Nat × Host)) (m : Machine) :
    (unneeded.foldl (fun m (_, host) => m.closeScratch host.bench.scratch) m).masked v =
      unneeded.foldl (fun m (_, host) => m.closeScratch host.bench.scratch) (m.masked v) := by
  induction unneeded generalizing m with
  | nil => rfl
  | cons entry unneeded ih => exact ih _

theorem masked_closeScratches : s.closeScratches.masked v = (s.masked v).closeScratches := by
  have needs : (s.masked v).needsScratch = s.needsScratch := by
    funext number host
    simp [needsScratch, masked, Task.masked, Request.masked, holds, Workshop.occupies, Workshop.masked,
      List.any_map, Function.comp_def]
  simp only [closeScratches, needs]
  exact congrArg (fun machine => { s.masked v with workshop := { s.workshop with machine } })
    (masked_closeAll _ s.workshop.machine)

theorem masked_reclaim : s.reclaim.masked v = (s.masked v).reclaim := by
  rw [reclaim, reclaim, masked_closeScratches, masked_releaseInstances, masked_dropTasks]

end Session

namespace Moment

variable {m m' : Moment} {e e' : Event}

/-- **An event that is no step of a request does the same where expressions are masked.** -/
theorem masked_react (timed : v.timed = true) (other : e.isStep = false) :
    (m.react e).masked v = (m.masked v).react (e.masked v) := by
  cases e with
  | proceed n => simp [Event.isStep] at other
  | pursue => simp [Event.isStep] at other
  | submit expression label =>
    exact congrArg (fun session => { m.masked v with session }) (Session.masked_submit expression label)
  | cancel => exact congrArg (fun session => { m.masked v with session }) Session.masked_stopInFlight
  | stop n => exact congrArg (fun session => { m.masked v with session }) (Session.masked_stop timed n)
  | collect n slot =>
    exact congrArg (fun session => { m.masked v with session }) (Session.masked_collect n slot)
  | call slot x =>
    have called := Workshop.masked_call (v := v) (w := m.session.workshop) (m.session.slot slot) x
    exact congrArg (fun workshop => { m.masked v with session.workshop := workshop })
      (congrArg Prod.snd called).symm
  | land => exact congrArg (fun session => { m.masked v with session }) (Session.masked_land timed)
  | ask r =>
    obtain ⟨s, awaited⟩ := m
    cases awaited <;> rfl
  | answer slot =>
    obtain ⟨s, awaited⟩ := m
    rcases awaited with - | ⟨r, phase⟩
    · rfl
    · cases phase with
      | done verdict =>
        exact congrArg (fun session => (⟨session, none⟩ : Moment))
          (Session.masked_keep ⟨r.expression, verdict⟩ slot)
      | _ => rfl
  | forsake =>
    obtain ⟨s, awaited⟩ := m
    rcases awaited with - | ⟨r, phase⟩
    · rfl
    · exact congrArg (fun session => (⟨session, none⟩ : Moment)) (Session.masked_giveUp (.inl timed))
  | reclaim =>
    obtain ⟨s, awaited⟩ := m
    cases awaited with
    | none => exact congrArg (fun session => (⟨session, none⟩ : Moment)) Session.masked_reclaim
    | some awaited => rfl
  | look =>
    have started : (m.session.masked v).started = m.session.started := by
      simpa [Session.started, Machine.calls, Session.masked, Workshop.masked, Machine.masked] using
        Attempt.length_calls_masked m.session.workshop.machine.attempts
    exact congrArg (fun seen => { m.masked v with session.seen := seen }) started.symm
  | wait time =>
    obtain ⟨name, rfl⟩ := ExpressionMask.eq_of_timed timed
    rfl
  | _ => rfl

end Moment

end Plotter
