import Plotter.CommandLine.Arguments
import Plotter.CommandLine.Paint
import Plotter.CommandLine.Report
import Plotter.Session.Command

/-!
# Actions

What the commands do that answer once: they write results on standard output and all else on
standard error, and end with a status that is zero if and only if they succeed.
-/

namespace Plotter.CommandLine

/-- What a command wrote, and the status with which it ended. -/
structure Transcript where
  out : String := ""
  err : String := ""
  status : UInt8 := 0
  deriving Repr, DecidableEq

/-- A command that ends with an error. -/
def Transcript.error (message : String) : Transcript :=
  { err := "Error: " ++ message ++ "\n", status := 1 }

/-- One transcript after another. -/
def Transcript.append (a b : Transcript) : Transcript :=
  { out := a.out ++ b.out, err := a.err ++ b.err, status := b.status }

/-- The notices that a machine gave, as lines. -/
def noticeLines (m : Machine) : String := String.join (m.notices.reverse.map noticeLine)

/-- The diagnostics and the warnings of an evaluation, as lines. -/
def diagnosticLines (e : Evaluation) : String :=
  String.join ((e.diagnostics ++ e.warnings).map diagnosticLine)

/-- What ends a command that evaluated an expression. -/
def ending (e : Evaluation) : Transcript :=
  match e.failure? with
  | some failure => .error ("`" ++ e.expression ++ "`: " ++ failure.message)
  | none => {}

/-! ### Samples -/

/-- The domain that the options of a plot give. -/
def plotDomain (start stop step : Option Float) : Except Failure SampleDomain :=
  match start, stop, step with
  | none, none, none => .ok .default
  | _, _, _ =>
    (SampleDomain.ofBounds (start.getD (-10)) (stop.getD 10) (step.getD 0.1)).mapError
      .configuration

/-- The heading of a table: the expression and the unit, the columns, and a rule. -/
def tableHead (expression : String) (unit : Option String) : String :=
  (match unit with
    | some unit =>
      Paint.bold.apply ("f(x) = " ++ expression) ++ "  " ++ Paint.dim.apply unit ++ "\n"
    | none => "") ++
    Decimal.rightAligned 10 "x" ++ "  " ++ Decimal.rightAligned 16 "f(x)" ++ "\n" ++
    String.ofList (List.replicate 28 '─') ++ "\n"

/-- A row of a table. -/
def tableRow (s : Sample) : String :=
  Decimal.rightAligned 10 (Decimal.fixed 4 s.x) ++ "  " ++
    Decimal.rightAligned 16 (Decimal.fixed 8 s.y) ++ "\n"

/-- A table of samples. -/
def table (e : Evaluation) (samples : List Sample) : String :=
  tableHead e.expression e.handle.unit? ++ String.join (samples.map tableRow)

/-! ### Commands -/

/-- An evaluation by a host that is there for it alone. What the host held is let go of at
the end. Nothing comes of it if the compiler never ends. -/
def withHost (m : Machine) (chance : UInt64 → Draw) (settings : HostSettings) (expression : String)
    (answer : Evaluation → Session → Transcript × Session) : Option (Transcript × Machine) :=
  match Host.setUp m chance settings with
  | (.error failure, m) => some (.error failure.message, m)
  | (.ok (host, names), m) =>
    match Session.evaluate { workshop := { machine := m, names, hosts := [host] } }
        ⟨0, expression⟩ false with
    | (none, _) => none
    | (some e, s) =>
      let notices := noticeLines s.workshop.machine
      let (transcript, s) := answer e s
      let s := s.dropHosts.reclaim
      some (({ err := notices } : Transcript).append transcript, s.workshop.machine)

/-- Compile an expression and print its samples. The samples of a failed evaluation are
zeros; they are in the report, but not in a table. -/
def plot (m : Machine) (chance : UInt64 → Draw) (settings : HostSettings) (expression : String)
    (start stop step : Option Float) (json : Bool) : Option (Transcript × Machine) :=
  match plotDomain start stop step with
  | .error failure => some (.error failure.message, m)
  | .ok domain =>
    withHost m chance settings expression fun e s =>
      let (samples, s) := s.sample e.handle domain
      let out :=
        if json then (report e (some samples)).prettyText ++ "\n"
        else if e.isSuccess then table e samples
        else ""
      (({ out, err := diagnosticLines e } : Transcript).append (ending e), s)

/-- The line for an expression that was compiled. -/
def successLine (e : Evaluation) : String :=
  match e.handle.unit?, e.elapsed? with
  | some unit, some elapsed =>
    Paint.green.apply "ok" ++ " " ++ unit ++ " compiled in " ++ toString elapsed ++ "ms\n"
  | _, _ => ""

/-- Compile an expression. -/
def check (m : Machine) (chance : UInt64 → Draw) (settings : HostSettings) (expression : String)
    (json : Bool) : Option (Transcript × Machine) :=
  withHost m chance settings expression fun e s =>
    let transcript : Transcript :=
      if json then { out := (report e none).prettyText ++ "\n" }
      else { out := successLine e, err := diagnosticLines e }
    (transcript.append (ending e), s)

/-- Show the toolchain. -/
def showToolchain (m : Machine) (path : Option String) : Transcript :=
  match Toolchain.detect m path with
  | .error failure => .error failure.message
  | .ok t =>
    let cranelift :=
      if t.cranelift then Paint.green.apply "available" else Paint.yellow.apply "not available"
    { out :=
        Paint.bold.apply "rustc" ++ "      " ++ t.path ++ "\n" ++
          Paint.bold.apply "version" ++ "    " ++ t.version ++ "\n" ++
          Paint.bold.apply "cranelift" ++ "  " ++ cranelift ++ "\n" }

end Plotter.CommandLine
