import Plotter.Decimal.Layout
import Plotter.Json.Printer

/-!
# Samples

A point of a graph, and its form for other programs.
-/

namespace Plotter

/-- A point `(x, f x)`. -/
structure Sample where
  x : Float
  y : Float

open Json (Document)

/-- A double in JSON, null if it is no finite number. -/
def Json.Document.ofFloat (x : Float) : Document :=
  match Decimal.Binary64.ofFloat x with
  | .finite .. => .number (Decimal.Style.json.render x)
  | _ => .null

/-- A sample as an object. -/
def Sample.document (s : Sample) : Document := .object [("x", .ofFloat s.x), ("y", .ofFloat s.y)]

/-- A list of samples as an array. -/
def Sample.documentAll (samples : List Sample) : Document := .array (samples.map Sample.document)

end Plotter
