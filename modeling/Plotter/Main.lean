import Plotter.CommandLine.Run

/-!
# The program

The command line on a machine where no compiler is installed: what needs one says that it is
missing, and the rest is done.
-/

namespace Plotter

/-- A machine without programs and without files. -/
def bareMachine : Machine where
  files := {}
  searchPath := ""
  tool :=
    { version := (.exited 0, []), cranelift := false
      respond := fun _ _ => .unstarted .notFound }
  temporary number := "/tmp/fxplot-" ++ toString number

end Plotter

/-- Act on the words of the command line. -/
def main (words : List String) : IO UInt32 := do
  match Plotter.CommandLine.run Plotter.bareMachine (fun _ => ⟨0, 0⟩) words [] with
  | some (transcript, _) =>
    IO.print transcript.out
    IO.eprint transcript.err
    return transcript.status.toUInt32
  | none => return 1
