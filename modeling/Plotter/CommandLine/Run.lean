import Plotter.CommandLine.Help
import Plotter.CommandLine.Repl

/-!
# The command line

The words of a command line, the machine that they are given on, and what a user types at the
prompt decide what is written and with which status it ends.
-/

namespace Plotter.CommandLine

/-- What is written when nothing is done. -/
def Stop.transcript : Stop → Transcript
  | misuse => { err := HelpTopic.program.page, status := 2 }
  | version => { out := versionText }
  | help topic => { out := topic.page }

/-- Do what an invocation asks for. -/
def Invocation.run (i : Invocation) (m : Machine) (chance : UInt64 → Draw)
    (typed : List Repl.Typed) : Option (Transcript × Machine) :=
  match i.action with
  | .plot expression start stop step json =>
    plot m chance i.hostSettings expression start stop step json
  | .check expression json => check m chance i.hostSettings expression json
  | .repl => readLoop m chance i.hostSettings typed
  | .toolchain => some (showToolchain m i.compiler, m)

/-- Do what the words of a command line ask for. Nothing comes of it if the compiler never
ends. -/
def run (m : Machine) (chance : UInt64 → Draw) (words : List String) (typed : List Repl.Typed) :
    Option (Transcript × Machine) :=
  match Invocation.ofWords words with
  | .ok i => i.run m chance typed
  | .error stop => some (stop.transcript, m)

end Plotter.CommandLine
