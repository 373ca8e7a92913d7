import Plotter.Compiler.Call
import Plotter.Diagnostic.Stream
import Plotter.Failure
import Plotter.SourceUnit

/-!
# What a run amounts to

A run compiled its unit if it succeeded and left something where the library was asked for.
Its report then holds the warnings; otherwise it holds the reason, and where it holds none,
the status is the reason.
-/

namespace Plotter

namespace Run

/-- The diagnostics in the report of a run for a unit. -/
def diagnostics (r : Run) (start : Location) : List Diagnostic :=
  Diagnostic.ofOutput start (Text.Utf8.decodeLenient r.report)

/-- The error that stands for a run that reports none. -/
def unexplained (r : Run) : Diagnostic := .ofError ("rustc exited with " ++ r.status.words)

/-- Whether the unit was compiled, when `left` is what is at the place of its library. -/
def compiled (r : Run) (left : Option Product) : Bool := r.status.success && left.isSome

/-- Why the unit was not compiled. -/
def complaints (r : Run) (start : Location) : List Diagnostic :=
  let ds := r.diagnostics start
  if ds.any Diagnostic.isError then ds else ds ++ [r.unexplained]

/-- What the compiler remarked on a unit that was compiled. -/
def warnings (r : Run) (start : Location) : List Diagnostic :=
  (r.diagnostics start).filter fun d => !d.isError

end Run

end Plotter
