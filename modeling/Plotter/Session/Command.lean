import Plotter.Sampling.Domain
import Plotter.Session.Tasks

/-!
# Commands

The actions that a user of a session can take, and what each of them answers. A user who let
go of a host can give it no more requests. After each action the session lets go of what is
not needed any more.
-/

namespace Plotter

/-- An action of the user's. -/
inductive Command
  /-- Give a request to a host, and put the handle into a slot. While a user who is `waiting`
  gets no answer, background requests may begin or stop. -/
  | evaluate (request : Request) (waiting : Bool) (slot : Option String)
  /-- Call the handle in a slot with some arguments. -/
  | call (slot : String) (arguments : List Float)
  /-- Call the handle in a slot with the points of a domain. -/
  | sample (slot : String) (domain : SampleDomain)
  /-- Put the handle in one slot into another too. -/
  | copy (source target : String)
  /-- Empty a slot. -/
  | drop (slot : String)
  /-- Ask whether the handles in two slots are on one instance. -/
  | same (a b : String)
  /-- Ask whether the units of the handles in two slots differ. -/
  | distinct (a b : String)
  /-- Ask for the unit of the handle in a slot. -/
  | unit (slot : String)
  /-- Ask how many pairs of names were handed out. -/
  | issued
  /-- Ask for the files in the first host's scratch directory. -/
  | scratch
  /-- Ask for the calls of the compiler that were not looked at yet. -/
  | calls
  /-- Change the files of the machine. -/
  | edit (change : Files → Except SystemFault Files)
  /-- Let go of the hosts. -/
  | dropHosts
  /-- Let go of one host, by its number. -/
  | dropHost (number : Nat)
  /-- Give a request to the first host to work on in the background, under a name. -/
  | submit (expression : String) (label : String)
  /-- Wait until the compiler was started so many times. -/
  | awaitStarted (count : Nat)
  /-- Wait until a background request is finished. -/
  | settle (label : String)
  /-- Ask whether a background request is finished. -/
  | finished (label : String)
  /-- Make the background request that is not finished stop, and ask whether there was one. -/
  | cancel
  /-- Wait until a background request is finished, take its outcome, and put the handle into
  a slot. -/
  | outcome (label : String) (slot : Option String)

/-- What an action answers. -/
inductive Answer
  | nothing
  | flag (b : Bool)
  | number (n : Nat)
  | text (text : String)
  | evaluation (e : Evaluation)
  | values (ys : List Float)
  | samples (samples : List Sample)
  | handle (h : Handle)
  | files (names : List String)
  | calls (calls : List Call)
  | superseded

namespace Session

/-- Put the handle of an evaluation into a slot, if one is given. -/
def keep (s : Session) (e : Evaluation) : Option String → Session
  | some slot => s.setSlot slot e.handle
  | none => s

/-- Give a request to a host. -/
def evaluate (s : Session) (request : Request) (waiting : Bool) : Option Evaluation × Session :=
  if waiting then s.evaluateWaiting request
  else
    let (e, workshop) := s.workshop.evaluate request
    (e, { s with workshop })

/-- The samples of a handle over a domain. -/
def sample (s : Session) (handle : Handle) (domain : SampleDomain) : List Sample × Session :=
  let (ys, workshop) := s.workshop.callAll handle domain.points
  ((domain.points.zip ys).map fun (x, y) => ⟨x, y⟩, { s with workshop })

/-- The answer to an action, and the session after it, nothing let go of yet. -/
def act (s : Session) : Command → Answer × Session
  | .evaluate request waiting slot =>
    if s.holds request.host then
      match s.evaluate request waiting with
      | (some e, s) => (.evaluation e, s.keep e slot)
      | (none, s) => (.nothing, s)
    else (.nothing, s)
  | .call slot xs =>
    let (ys, workshop) := s.workshop.callAll (s.slot slot) xs
    (.values ys, { s with workshop })
  | .sample slot domain =>
    let (samples, s) := s.sample (s.slot slot) domain
    (.samples samples, s)
  | .copy source target => (.nothing, s.setSlot target (s.slot source))
  | .drop slot => (.flag (s.slots.lookup slot).isSome, s.clearSlot slot)
  | .same a b => (.flag ((s.slot a).sameInstance (s.slot b)), s)
  | .distinct a b => (.flag ((s.slot a).unit? != (s.slot b).unit?), s)
  | .unit slot => (.handle (s.slot slot), s)
  | .issued => (.number s.workshop.names.issued.toNat, s)
  | .scratch =>
    match s.workshop.hosts.head?.bind fun h => s.workshop.machine.fileNames h.bench.scratch with
    | some names => (.files names, s)
    | none => (.nothing, s)
  | .calls => (.calls (s.workshop.machine.calls.drop s.seen), { s with seen := s.started })
  | .edit change =>
    match change s.workshop.machine.files with
    | .ok files => (.flag true, { s with workshop.machine.files := files })
    | .error _ => (.flag false, s)
  | .dropHosts => (.nothing, s.dropHosts)
  | .dropHost number => (.nothing, s.dropHost number)
  | .submit expression label =>
    if s.holds 0 then (.text expression, s.submit expression label) else (.nothing, s)
  | .awaitStarted count => (.flag true, s.awaitStarted count)
  | .settle label =>
    match s.ticket? label with
    | some ticket => (.flag true, s.await ticket)
    | none => (.flag true, s)
  | .finished label =>
    match s.ticket? label with
    | some ticket => (.flag (s.isFinished ticket), s)
    | none => (.nothing, s)
  | .cancel =>
    if s.holds 0 then
      let (busy, s) := s.cancel
      (.flag busy, s)
    else (.flag false, s)
  | .outcome label slot =>
    match s.ticket? label with
    | none => (.nothing, s)
    | some ticket =>
      let s := s.await ticket
      match s.take ticket with
      | (some (.ready e), s) => (.evaluation e, s.keep e slot)
      | (some .superseded, s) => (.superseded, s)
      | (none, s) => (.nothing, s)

/-- The answer to an action, and the session after it. -/
def step (s : Session) (command : Command) : Answer × Session :=
  let (answer, s) := s.act command
  (answer, s.land.reclaim)

/-- The answers to a list of actions, and the session after them; `before` holds the answers
given already, latest first. -/
def runAfter (before : List Answer) : Session → List Command → List Answer × Session
  | s, [] => (before.reverse, s)
  | s, c :: cs =>
    let (answer, s) := s.step c
    runAfter (answer :: before) s cs

/-- The answers to a list of actions, and the session after them. -/
def run (s : Session) (cs : List Command) : List Answer × Session := runAfter [] s cs

end Session

end Plotter
