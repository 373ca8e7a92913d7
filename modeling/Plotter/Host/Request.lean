import Plotter.Host.Workshop

/-!
# Requests

A request goes through attempts. Each attempt takes fresh names, fills in the template, calls
the compiler, and makes an instance of what comes of the call. A library that cannot be
loaded may be a matter of chance, so a failure of that kind alone is followed by another
attempt, as long as the host's number of retries allows it. `Workshop.advance` is one step of
this, from one moment at which the request waits to the next; `Workshop.pursue` goes on to the
end.
-/

namespace Plotter

/-- An expression given to a host, by the host's number. -/
structure Request where
  host : Nat
  expression : String
  deriving Repr, DecidableEq

/-- How far a request has come. -/
inductive Phase
  /-- It has not begun. -/
  | queued
  /-- It waits for the compiler, after so many attempts that came to nothing. -/
  | compiling (retried : UInt32) (compilation : Compilation)
  /-- It is at its end. -/
  | done (verdict : Verdict)

namespace Phase

/-- Whether the request is at its end. -/
def isDone : Phase → Bool
  | done _ => true
  | _ => false

/-- The time until which the request waits for the compiler, if it does and the run ends. -/
def due? : Phase → Option Nat
  | compiling _ c => c.due?
  | _ => none

/-- Whether the request can go on by itself. -/
def moves : Phase → Bool
  | queued => true
  | compiling _ c => c.due?.isSome
  | done _ => false

end Phase

namespace Workshop

/-- Take fresh names and fill in the template. -/
def prepare (w : Workshop) (r : Request) (host : Host) : Except Failure SourceUnit × Workshop :=
  let (template, templates) := host.templates.load w.machine.files
  let w := { w with hosts := w.hosts.set r.host { host with templates } }
  match template with
  | .error failure => (.error failure, w)
  | .ok template =>
    let (names, source) := w.names.next
    (.ok (SourceUnit.fill template names r.expression), { w with names := source })

/-- End a request with a failure. -/
def fail (w : Workshop) (r : Request) (failure : Failure) : Phase × Workshop :=
  (.done (.failed failure), w.noteFailure r.expression failure)

/-- Begin an attempt. It is at its end at once if the compiler cannot be started. -/
def attempt (w : Workshop) (r : Request) (host : Host) (retried : UInt32) : Phase × Workshop :=
  match w.prepare r host with
  | (.error failure, w) => w.fail r failure
  | (.ok unit, w) =>
    let (c, machine) := host.bench.call w.machine unit
    let w := { w with machine }
    match c.response with
    | .unstarted fault => w.fail r (.toolchain (.unstartable host.bench.toolchain.path fault))
    | .started .. => (.compiling retried c, w)

/-- What is made of a unit that was built, or of the failure to build it. -/
def settle (w : Workshop) (host : Host) (unit : SourceUnit) :
    Except Failure BuiltUnit → Except Failure Verdict × Workshop
  | .ok built => w.instantiate host.bench unit.names built
  | .error failure => (.error failure, w)

/-- What the end of an attempt makes of a request. -/
def conclude (w : Workshop) (r : Request) (host : Host) (retried : UInt32) :
    Except Failure Verdict → Phase × Workshop
  | .ok verdict => (.done verdict, w)
  | .error failure =>
    if failure.isLoading && retried < host.retries then
      (w.note (.retrying failure)).attempt r host (retried + 1)
    else w.fail r failure

/-- One step of a request to a host. -/
def advanceOn (w : Workshop) (r : Request) (host : Host) : Phase → Phase × Workshop
  | .queued => w.attempt r host 0
  | .compiling retried c =>
    match host.bench.finish? w.machine c with
    | none => (.compiling retried c, w)
    | some (built, machine) =>
      let (result, w) := { w with machine }.settle host c.unit built
      w.conclude r host retried result
  | .done verdict => (.done verdict, w)

/-- One step of a request. -/
def advance (w : Workshop) (r : Request) (phase : Phase) : Phase × Workshop :=
  match w.hosts[r.host]? with
  | none => (phase, w)
  | some host => w.advanceOn r host phase

/-- Go on with a request as far as it goes, for at most `steps` steps. -/
def pursueFor (r : Request) : (steps : Nat) → Workshop → Phase → Phase × Workshop
  | 0, w, phase => (phase, w)
  | steps + 1, w, phase =>
    if phase.moves then
      let (phase, w) := w.advance r phase
      pursueFor r steps w phase
    else (phase, w)

/-- The number of steps that a request to a host may take: one to begin, and one for each
attempt. -/
def stepBound (w : Workshop) (r : Request) : Nat :=
  match w.hosts[r.host]? with
  | none => 0
  | some host => host.retries.toNat + 2

/-- Go on with a request as far as it goes. -/
def pursue (w : Workshop) (r : Request) (phase : Phase) : Phase × Workshop :=
  pursueFor r (w.stepBound r) w phase

/-- Give up a request: the run under way, if there is one, is killed. -/
def abandon (w : Workshop) (r : Request) (phase : Phase) : Workshop :=
  match w.hosts[r.host]?, phase with
  | some host, .compiling _ c => { w with machine := host.bench.drop w.machine c }
  | _, _ => w

/-- What a request's run has left is there once the run is over, even if the request has not
gone on since. -/
def land (w : Workshop) (r : Request) (phase : Phase) : Workshop :=
  match w.hosts[r.host]?, phase with
  | some host, .compiling _ c => { w with machine := host.bench.land w.machine c }
  | _, _ => w

/-- The answer to a request, all that it takes done while the caller waits; none if its
compiler never ends, and the caller gives up. -/
def evaluate (w : Workshop) (r : Request) : Option Evaluation × Workshop :=
  match w.pursue r .queued with
  | (.done verdict, w) => (some ⟨r.expression, verdict⟩, w)
  | (phase, w) => (none, w.abandon r phase)

end Workshop

end Plotter
