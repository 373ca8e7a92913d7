import Plotter.Session.Basic

/-!
# Background requests

What happens to the tasks of a session. There are four small steps: a new task comes in, which
tells the one in flight to stop; the one in flight is told to stop; a task that was told to
stop does so; a task goes on. The larger steps are what happens while the user waits.

A step in which a task goes on waits for the task's run of the compiler to be over. Where
several could be taken, the one whose run is over first is.
-/

namespace Plotter

namespace Session

/-- The task with a ticket. -/
def task? (s : Session) (ticket : Nat) : Option Task := s.tasks.find? fun t => t.ticket == ticket

/-- The ticket of the task that its user knows by a name. -/
def ticket? (s : Session) (label : String) : Option Nat :=
  (s.tasks.find? fun t => t.label == some label).map Task.ticket

/-- Change how a task stands. -/
def setState (s : Session) (ticket : Nat) (state : TaskState) : Session :=
  { s with tasks := s.tasks.map fun t => if t.ticket = ticket then { t with state } else t }

/-- Whether a task is finished. -/
def isFinished (s : Session) (ticket : Nat) : Bool :=
  match s.task? ticket with
  | some t => t.state.isFinished
  | none => true

/-! ### Small steps -/

/-- Tell the task in flight to stop. -/
def stopInFlight (s : Session) : Session :=
  { s with
    inFlight := none
    tasks := s.tasks.map fun t =>
      if s.inFlight = some t.ticket then { t with state := t.state.stop } else t }

/-- Take in a request to the first host under a name, which is taken from the task that had
it. The task in flight is told to stop. -/
def submit (s : Session) (expression : String) (label : String) : Session :=
  let s := s.stopInFlight
  let older := s.tasks.map fun t => if t.label = some label then { t with label := none } else t
  { s with
    tasks := older ++ [⟨s.submitted, some label, ⟨0, expression⟩, .live .queued⟩]
    submitted := s.submitted + 1
    inFlight := some s.submitted }

/-- Whether a task is in flight and not finished. -/
def isBusy (s : Session) : Bool :=
  match s.inFlight with
  | some ticket => !s.isFinished ticket
  | none => false

/-- Tell the task in flight to stop; whether there was one that was not finished. -/
def cancel (s : Session) : Bool × Session := (s.isBusy, s.stopInFlight)

/-- A task that was told to stop does so: its run of the compiler is killed. -/
def stopTask (s : Session) (t : Task) : Session :=
  match t.state with
  | .stopping phase =>
    { s with workshop := s.workshop.abandon t.request phase }.setState t.ticket .superseded
  | _ => s

/-- A task goes on by one step. -/
def advanceTask (s : Session) (t : Task) : Session :=
  match t.state with
  | .live phase =>
    let (phase, workshop) := s.workshop.advance t.request phase
    { s with workshop }.setState t.ticket (.live phase)
  | _ => s

/-- The task with a ticket stops if it was told to. -/
def stop (s : Session) (ticket : Nat) : Session :=
  match s.task? ticket with
  | some t => s.stopTask t
  | none => s

/-- The task with a ticket goes on by one step. -/
def proceed (s : Session) (ticket : Nat) : Session :=
  match s.task? ticket with
  | some t => s.advanceTask t
  | none => s

/-! ### While the user waits -/

/-- What happens to a task when the user begins to wait: it stops if it was told to, and
begins if it has not begun. -/
def pollTask (s : Session) (ticket : Nat) : Session :=
  match (s.task? ticket).map Task.state with
  | some (.stopping _) => s.stop ticket
  | some (.live .queued) => s.proceed ticket
  | _ => s

/-- What happens to the tasks, oldest first, when the user begins to wait. -/
def poll (s : Session) : Session := (s.tasks.map Task.ticket).foldl pollTask s

/-- Let a task go on for at most so many steps, until `enough` holds. -/
def driveFor (ticket : Nat) (enough : Session → Bool) : (steps : Nat) → Session → Session
  | 0, s => s
  | steps + 1, s =>
    if enough s then s
    else match s.task? ticket with
      | some t =>
        match t.state with
        | .live phase =>
          if phase.moves then driveFor ticket enough steps (s.proceed ticket) else s
        | _ => s
      | none => s

/-- Let a task go on, until `enough` holds or it can go no further. -/
def drive (s : Session) (ticket : Nat) (enough : Session → Bool) : Session :=
  match s.task? ticket with
  | some t => driveFor ticket enough (s.workshop.stepBound t.request) s
  | none => s

/-- Wait until a task is finished. If it is already, nothing happens meanwhile. -/
def await (s : Session) (ticket : Nat) : Session :=
  if s.isFinished ticket then s else s.poll.drive ticket fun _ => false

/-- How often the compiler was started. -/
def started (s : Session) : Nat := s.workshop.machine.calls.length

/-- Wait until the compiler was started so many times. -/
def awaitStarted (s : Session) (count : Nat) : Session :=
  let enough (s : Session) : Bool := count ≤ s.started
  if enough s then s
  else
    let s := s.poll
    match s.tasks.find? fun t => t.state.isAtWork with
    | some t => s.drive t.ticket enough
    | none => s

/-- The task that goes on first, if it does so before a time. -/
def dueBefore? (s : Session) (time : Nat) : Option Task :=
  match (s.tasks.filterMap Task.due?).min? with
  | some first =>
    if first < time then s.tasks.find? fun t => t.due? == some first else none
  | none => none

/-- The task that goes on first does so before the time, and none does before it. -/
theorem due_of_dueBefore? {s : Session} {time : Nat} {t : Task} (h : s.dueBefore? time = some t) :
    ∃ due, t.due? = some due ∧ due < time ∧
      ∀ other ∈ s.tasks, ∀ due', other.due? = some due' → due ≤ due' := by
  unfold dueBefore? at h
  split at h
  · rename_i first least
    split at h
    · rename_i early
      have own := List.find?_some h
      refine ⟨first, by simpa using own, early, fun other member due' present => ?_⟩
      exact (List.min?_eq_some_iff.1 least).2 due' (List.mem_filterMap.2 ⟨other, member, present⟩)
    · exact absurd h (by simp)
  · exact absurd h (by simp)

/-- Let a request that is not in the background go on for at most so many steps, those of the
tasks that go on in the meantime included. -/
def pursueFor (r : Request) : (steps : Nat) → Session → Phase → Phase × Session
  | 0, s, phase => (phase, s)
  | steps + 1, s, phase =>
    match phase.due? with
    | none => (phase, s)
    | some time =>
      match s.dueBefore? time with
      | some t => pursueFor r steps (s.proceed t.ticket) phase
      | none =>
        let (phase, workshop) := s.workshop.advance r phase
        pursueFor r steps { s with workshop } phase

/-- The number of steps that a request and the tasks may take together. -/
def stepBound (s : Session) (r : Request) : Nat :=
  s.tasks.foldl (fun bound t => bound + s.workshop.stepBound t.request) (s.workshop.stepBound r)

/-- Give up a request that is not in the background. -/
def giveUp (s : Session) (r : Request) (phase : Phase) : Session :=
  { s with workshop := s.workshop.abandon r phase }

/-- Wait for the answer to a request that is not in the background. Unless it is there at once,
tasks begin and stop meanwhile, and go on when their runs are over before it. -/
def evaluateWaiting (s : Session) (r : Request) : Option Evaluation × Session :=
  let (phase, workshop) := s.workshop.advance r .queued
  let s := { s with workshop }
  let (phase, s) := if phase.isDone then (phase, s) else s.poll.pursueFor r (s.stepBound r) phase
  match phase with
  | .done verdict => (some ⟨r.expression, verdict⟩, s)
  | phase => (none, s.giveUp r phase)

/-- Take the outcome of a finished task; a task that is not finished stays. -/
def take (s : Session) (ticket : Nat) : Option Outcome × Session :=
  match (s.task? ticket).bind Task.outcome? with
  | some outcome =>
    (some outcome, { s with tasks := s.tasks.filter fun t => t.ticket != ticket })
  | none => (none, s)

end Session

end Plotter
