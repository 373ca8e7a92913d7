import Plotter.CommandLine.Actions

/-!
# The read loop

Expressions are read one a line, and each line is a background request. What comes of a line
is shown when it is finished: a summary of its function, why it failed, or that a later line
superseded it. A line may be entered while an earlier one is not finished.

`Repl.move` gives the small steps, which may follow one another in any order: a line is
entered, the task of a line goes on, a finished line is shown. `Repl.run` goes through them as
a user does who types something and then waits.
-/

namespace Plotter.CommandLine

/-- The expression for a blank line. -/
def defaultExpression : String := "x * (sin(x) + cos(x))"

/-- The expression that a line stands for. -/
def expressionOfLine (line : List Char) : String :=
  match Text.trim line with
  | [] => defaultExpression
  | text => String.ofList text

/-! ### Summaries -/

/-- What is shown of a line. -/
inductive Summary
  /-- A later line superseded it. -/
  | superseded (expression : String)
  /-- It failed. -/
  | failed (evaluation : Evaluation)
  /-- Its function, with the value at zero and the least and greatest of its finite values. -/
  | made (evaluation : Evaluation) (atZero : Float) (range : Option (Float × Float))

/-- The least and the greatest finite number of a list, where there is one. Of the two zeros,
which are equal, the last is taken. -/
def finiteRange (ys : List Float) : Option (Float × Float) :=
  let (low, high) := (ys.filter Float.isFinite).foldl
    (fun (low, high) y => (if low < y then low else y, if y < high then high else y))
    ((1 / 0 : Float), (-1 / 0 : Float))
  if low ≤ high then some (low, high) else none

/-- The prompt. -/
def prompt : String := Paint.cyan.apply ">" ++ " "

/-- The line before the first prompt. -/
def banner : String :=
  Paint.bold.apply "fxplot" ++ " enter f(x), blank for " ++
    Paint.dim.apply defaultExpression ++ "\n"

/-- The text of a summary. -/
def Summary.text : Summary → String
  | superseded expression => Paint.dim.apply ("superseded: " ++ expression) ++ "\n"
  | failed e => Paint.red.apply "failed:" ++ " " ++ e.expression ++ "\n" ++ e.diagnosticText
  | made e atZero range =>
    Paint.green.apply ("f(x) = " ++ e.expression) ++ " " ++
      Paint.dim.apply
        ("(" ++ e.handle.unit?.getD "" ++ ", " ++ toString (e.elapsed?.getD 0) ++ "ms)") ++ "\n" ++
      "  f(0) = " ++ Decimal.Style.plain.render atZero ++ "\n" ++
      match range with
      | some (low, high) =>
        "  min = " ++ Decimal.fixed 6 low ++ ", max = " ++ Decimal.fixed 6 high ++ " on [-10, 10]\n"
      | none => "  no finite values on [-10, 10]\n"

/-! ### Small steps -/

/-- The read loop: its session, the lines that were not shown yet, by their tickets, and what
was shown, latest first. -/
structure Repl where
  session : Session
  unshown : List Nat := []
  shown : List (Nat × Summary) := []

/-- A small step. -/
inductive Move
  /-- A line is entered. -/
  | enter (line : List Char)
  /-- The task of a line begins, goes on, or stops. -/
  | work (ticket : Nat)
  /-- A line is shown, if it is finished. -/
  | present (ticket : Nat)

namespace Repl

/-- Enter a line. -/
def enter (r : Repl) (line : List Char) : Repl :=
  let ticket := r.session.submitted
  { r with
    session := r.session.submit (expressionOfLine line) (toString ticket)
    unshown := r.unshown ++ [ticket] }

/-- Let the task of a line begin, go on, or stop. -/
def work (r : Repl) (ticket : Nat) : Repl :=
  match (r.session.task? ticket).map Task.state with
  | some (.stopping _) => { r with session := r.session.stop ticket }
  | _ => { r with session := r.session.proceed ticket }

/-- The summary of an outcome. The function is called over the default domain, and then at
zero. -/
def summarize (s : Session) (expression : String) : Outcome → Summary × Session
  | .superseded => (.superseded expression, s)
  | .ready e =>
    if e.isSuccess then
      let (samples, s) := s.sample e.handle .default
      let (atZero, workshop) := s.workshop.call e.handle 0
      (.made e atZero (finiteRange (samples.map Sample.y)), { s with workshop })
    else (.failed e, s)

/-- Show a line, if it is finished and was not shown. -/
def present (r : Repl) (ticket : Nat) : Repl :=
  match r.session.task? ticket with
  | none => r
  | some t =>
    match t.outcome? with
    | none => r
    | some outcome =>
      let (summary, s) := summarize (r.session.take ticket).2 t.request.expression outcome
      { session := s.reclaim
        unshown := r.unshown.filter (· != ticket)
        shown := (ticket, summary) :: r.shown }

/-- Take a small step. -/
def move (r : Repl) : Move → Repl
  | .enter line => r.enter line
  | .work ticket => r.work ticket
  | .present ticket => r.present ticket

/-- The text on standard output: the banner, and what was shown with a prompt after each. -/
def text (r : Repl) : String :=
  banner ++ prompt ++ String.join (r.shown.reverse.map fun (_, summary) => summary.text ++ prompt)

/-! ### A user at the prompt -/

/-- What a user waits for after typing. -/
inductive Patience
  /-- Until the last line is shown. -/
  | answered
  /-- Until the compiler was started so many times. -/
  | started (count : Nat)

/-- What a user types at once, and then waits for. -/
structure Typed where
  bytes : List UInt8
  patience : Patience

/-- What a wait begins with: the tasks that have not begun do, those that were told to stop
do, and lines that are finished are shown. -/
def refresh (r : Repl) : Repl :=
  let tickets := r.unshown
  let r := tickets.foldl
    (fun r ticket =>
      match (r.session.task? ticket).map Task.state with
      | some (.stopping _) | some (.live .queued) => r.work ticket
      | _ => r) r
  tickets.foldl present r

/-- Let the last line's task go on until `enough` holds or it can go no further. -/
def workLast (enough : Session → Bool) : (steps : Nat) → Repl → Repl
  | 0, r => r
  | steps + 1, r =>
    if enough r.session then r
    else match r.unshown.getLast? with
      | none => r
      | some ticket =>
        match (r.session.task? ticket).map Task.state with
        | some (.live phase) => if phase.moves then workLast enough steps (r.work ticket) else r
        | _ => r

/-- The number of steps that a line may take. -/
def stepBound (r : Repl) : Nat := r.session.workshop.stepBound ⟨0, ""⟩

/-- Wait. -/
def wait (r : Repl) : Patience → Repl
  | .answered => let r := r.refresh; (workLast (fun _ => false) r.stepBound r).refresh
  | .started count =>
    let enough (s : Session) : Bool := count ≤ s.started
    let r := r.refresh
    workLast enough r.stepBound r

/-- Enter lines one after the other, or stop at one that is no text. -/
def enterAll (r : Repl) : List (List UInt8) → Except Repl Repl
  | [] => .ok r
  | line :: lines =>
    match Text.Utf8.decode line with
    | .ok text => (r.enter text).enterAll lines
    | .error _ => .error r

/-- The lines that bytes complete, where `begun` (latest first) is what the first of them
begins with, and what is left over, latest first. -/
def completeLines (begun : List UInt8) : List UInt8 → List (List UInt8) × List UInt8
  | [] => ([], begun)
  | b :: rest =>
    if b = 10 then
      let (lines, left) := completeLines [] rest
      (begun.reverse :: lines, left)
    else completeLines (b :: begun) rest

/-- Go through what a user types, and wait for the last line at the end of it. A line that is
no text ends it at once. -/
def run (r : Repl) (begun : List UInt8) : List Typed → Except Repl Repl
  | [] => (r.enterAll (if begun.isEmpty then [] else [begun.reverse])).map fun r => r.wait .answered
  | t :: rest =>
    let (lines, left) := completeLines begun t.bytes
    match r.enterAll lines with
    | .ok r => (if lines.isEmpty then r else r.wait t.patience).run left rest
    | .error r => .error r

/-- Let go of the hosts, and of what they hold. -/
def close (r : Repl) : Machine :=
  { r.session with slots := [], tasks := [] }.dropHosts.reclaim.workshop.machine

end Repl

/-- Read expressions and show what comes of them. Nothing comes of it if the last of them is
never finished. -/
def readLoop (m : Machine) (chance : UInt64 → Draw) (settings : HostSettings)
    (typed : List Repl.Typed) : Option (Transcript × Machine) :=
  match Host.setUp m chance settings with
  | (.error failure, m) => some (.error failure.message, m)
  | (.ok (host, names), m) =>
    let start : Repl := { session := { workshop := { machine := m, names, hosts := [host] } } }
    match start.run [] typed with
    | .ok r =>
      if r.unshown.isEmpty then
        let m := r.close
        some ({ out := r.text ++ "\n", err := noticeLines m }, m)
      else none
    | .error r =>
      let m := r.close
      some
        (({ out := r.text, err := noticeLines m } : Transcript).append
          (.error "stream did not contain valid UTF-8"), m)

end Plotter.CommandLine
