import Plotter.Diagnostic.Basic
import Plotter.Diagnostic.Report
import Plotter.Text.Lines

/-!
# From the compiler's output to diagnostics

Each line of the output that is not blank gives at least one diagnostic: a report gives
one for itself and then those of the reports under it, in order; a line that is no
report gives a note with the line's text. A report's place becomes a column of the
expression when it lies on the line where the expression starts and not left of it.
-/

namespace Plotter

namespace Report

/-- The place that a report points at: the first primary one, or else the first. -/
def chosenSpan (spans : List Span) : Option Span :=
  match spans.find? (·.primary) with
  | some span => some span
  | none => spans.head?

end Report

/-- The column of the expression that a location stands for, if the expression starts
at `start`. Only the expression's first line is mapped. -/
def Location.expressionColumn? (start l : Location) : Option UInt64 :=
  if l.line = start.line ∧ start.column ≤ l.column then some (l.column - start.column + 1) else none

namespace Diagnostic

/-- The diagnostic for a report alone. -/
def ofReport (start : Location) : Report → Diagnostic
  | .mk message code level spans _ rendered =>
    let location := (Report.chosenSpan spans).map fun span => Location.mk span.line span.column
    { severity := .ofLevel level, code, message, location
      expressionColumn := location.bind (Location.expressionColumn? start), rendered }

mutual

/-- The diagnostics of a report: its own, then those of the reports under it. -/
def flatten (start : Location) : Report → List Diagnostic
  | .mk message code level spans children rendered =>
    ofReport start (.mk message code level spans children rendered) :: flattenAll start children

/-- The diagnostics of several reports, in order. -/
def flattenAll (start : Location) : List Report → List Diagnostic
  | [] => []
  | report :: reports => flatten start report ++ flattenAll start reports

end

/-- The diagnostics of one line. -/
def ofOutputLine (start : Location) (line : List Char) : List Diagnostic :=
  if line.all Text.isBlank then []
  else match Report.ofLine? line with
    | some report => flatten start report
    | none => [ofLine (String.ofList line)]

/-- The diagnostics of the compiler's output for a unit whose expression starts at
`start`. -/
def ofOutput (start : Location) (output : List Char) : List Diagnostic :=
  (Text.lines output).flatMap (ofOutputLine start)

end Diagnostic

end Plotter
