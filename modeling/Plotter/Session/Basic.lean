import Plotter.Host.Request
import Plotter.Sampling.Sample

/-!
# Sessions

A session is a user's dealings with hosts over time. The user keeps handles in slots, and
gives requests to the first host to work on in the background, at most one at a time: a newer
request makes an older one that is not finished stop.

A background request is a task, known by its ticket. Tasks are worked on only while the user
waits for something; this is when they begin, and when the order to stop takes effect. The runs
of the compiler need no such help: they go on, and leave what they leave, while the user does
anything that takes time. `Session.land` sees to it after each of the user's actions.

An instance is there as long as a slot or a finished task has a handle on it, and a scratch
directory as long as its host, a task or an instance needs it. `Session.reclaim` sees to both
then.
-/

namespace Plotter

/-- How a task stands. -/
inductive TaskState
  /-- It is worked on, or finished. -/
  | live (phase : Phase)
  /-- It was told to stop, when it had come so far. -/
  | stopping (phase : Phase)
  /-- It stopped before it was finished. -/
  | superseded

namespace TaskState

/-- Whether nothing more happens with the task. -/
def isFinished : TaskState → Bool
  | live phase => phase.isDone
  | stopping _ => false
  | superseded => true

/-- Whether the task is at work: neither finished nor told to stop. -/
def isAtWork : TaskState → Bool
  | live phase => !phase.isDone
  | _ => false

/-- How far the task has come, unless it stopped. -/
def phase? : TaskState → Option Phase
  | live phase | stopping phase => some phase
  | superseded => none

/-- The order to stop. It comes too late for a finished task. -/
def stop : TaskState → TaskState
  | live phase => if phase.isDone then live phase else stopping phase
  | state => state

/-- The handle that the task holds for its user. -/
def handle : TaskState → Handle
  | live (.done verdict) => (Evaluation.mk "" verdict).handle
  | _ => .null

end TaskState

/-- A background request. -/
structure Task where
  ticket : Nat
  /-- The name under which its user can ask for it. -/
  label : Option String
  request : Request
  state : TaskState

/-- What became of a task that is finished. -/
inductive Outcome
  | ready (evaluation : Evaluation)
  | superseded

/-- The outcome of a task, if it is finished. -/
def Task.outcome? (t : Task) : Option Outcome :=
  match t.state with
  | .live (.done verdict) => some (.ready ⟨t.request.expression, verdict⟩)
  | .superseded => some .superseded
  | _ => none

/-- The time at which a task goes on, if it waits for a run that ends. -/
def Task.due? (t : Task) : Option Nat :=
  match t.state with
  | .live phase => phase.due?
  | _ => none

/-- A session. -/
structure Session where
  workshop : Workshop
  /-- The numbers of the hosts that the user let go of. The background requests are made through
  the first host. -/
  letGo : List Nat := []
  /-- The handles that the user keeps, by the names of their slots. -/
  slots : List (String × Handle) := []
  /-- The background requests whose outcome was not taken, oldest first. -/
  tasks : List Task := []
  /-- How many background requests there were. -/
  submitted : Nat := 0
  /-- The ticket of the background request that may be at work. -/
  inFlight : Option Nat := none
  /-- How many calls of the compiler the user has looked at. -/
  seen : Nat := 0

namespace Session

/-! ### Hosts -/

/-- Whether the user still holds a host. -/
def holds (s : Session) (number : Nat) : Bool := !s.letGo.contains number

/-- Let go of a host. -/
def dropHost (s : Session) (number : Nat) : Session := { s with letGo := number :: s.letGo }

/-- Let go of all hosts. -/
def dropHosts (s : Session) : Session := (List.range s.workshop.hosts.length).foldl dropHost s

/-! ### Handles -/

/-- The handle in a slot; an empty slot has the null handle. -/
def slot (s : Session) (name : String) : Handle := (s.slots.lookup name).getD .null

/-- Put a handle into a slot. -/
def setSlot (s : Session) (name : String) (handle : Handle) : Session :=
  { s with slots := (name, handle) :: s.slots.filter fun entry => entry.1 != name }

/-- Empty a slot. -/
def clearSlot (s : Session) (name : String) : Session :=
  { s with slots := s.slots.filter fun entry => entry.1 != name }

@[simp] theorem slot_setSlot (s : Session) (name : String) (handle : Handle) :
    (s.setSlot name handle).slot name = handle := by
  simp [slot, setSlot]

@[simp] theorem slot_clearSlot (s : Session) (name : String) :
    (s.clearSlot name).slot name = .null := by
  have h : (s.slots.filter fun entry => entry.1 != name).lookup name = none := by
    rw [List.lookup_eq_none_iff]
    intro entry member
    have := (List.mem_filter.1 member).2
    grind
  rw [slot, clearSlot, h]
  rfl

/-- Every handle that the user has: those in slots, and those that finished tasks hold. -/
def handles (s : Session) : List Handle :=
  s.slots.map (·.2) ++ s.tasks.map fun t => t.state.handle

/-! ### Runs that are over -/

/-- What the runs that are over have left is there, whether their tasks have gone on since or
not. -/
def land (s : Session) : Session :=
  { s with
    workshop := s.tasks.foldl
      (fun w t => match t.state.phase? with
        | some phase => w.land t.request phase
        | none => w) s.workshop }

/-! ### Reclaiming -/

/-- Whether a handle of the user's is on an instance. -/
def uses (s : Session) (number : Nat) : Bool :=
  s.handles.any fun h => h.number? == some number

/-- Let go of the instances that no handle is on. -/
def releaseInstances (s : Session) : Session :=
  { s with workshop := s.workshop.release s.uses }

/-- Whether a host's scratch directory is needed. -/
def needsScratch (s : Session) (number : Nat) (host : Host) : Bool :=
  s.holds number || s.workshop.occupies host.bench.scratch ||
    s.tasks.any fun t => t.request.host == number && !t.state.isFinished

/-- Remove the scratch directories that are not needed. -/
def closeScratches (s : Session) : Session :=
  let hosts := (List.range s.workshop.hosts.length).zip s.workshop.hosts
  let unneeded := hosts.filter fun (number, host) => !s.needsScratch number host
  { s with
    workshop.machine :=
      unneeded.foldl (fun m (_, host) => m.closeScratch host.bench.scratch) s.workshop.machine }

/-- Drop the tasks that are finished and that nobody can ask for. -/
def dropTasks (s : Session) : Session :=
  { s with tasks := s.tasks.filter fun t => t.label.isSome || !t.state.isFinished }

/-- Let go of all that is not needed. -/
def reclaim (s : Session) : Session := s.dropTasks.releaseInstances.closeScratches

end Session

end Plotter
