import Plotter.Diagnostic.Record
import Plotter.Evaluation
import Plotter.Sampling.Sample

/-!
# Reports

An evaluation for other programs: one JSON object, over several lines. The samples are in it
where they were asked for.
-/

namespace Plotter.CommandLine

open Json (Document)

/-- The fields of a report before the place of the samples. -/
def headFields (e : Evaluation) : List (String × Document) :=
  [("expression", .string e.expression), ("unit", .ofOption .string e.handle.unit?),
    ("success", .bool e.isSuccess)]

/-- The fields of a report after the place of the samples. -/
def tailFields (e : Evaluation) : List (String × Document) :=
  [("diagnostics", Diagnostic.documentAll e.diagnostics),
    ("warnings", Diagnostic.documentAll e.warnings),
    ("compile_time_ms", .ofOption (fun n : Nat => .number (toString n)) e.elapsed?)]

/-- The field for the samples. -/
def sampleFields : Option (List Sample) → List (String × Document)
  | some samples => [("samples", Sample.documentAll samples)]
  | none => []

/-- A report on an evaluation. -/
def report (e : Evaluation) (samples : Option (List Sample)) : Document :=
  .object (headFields e ++ sampleFields samples ++ tailFields e)

end Plotter.CommandLine
