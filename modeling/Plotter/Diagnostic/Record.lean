import Plotter.Diagnostic.Basic
import Plotter.Json.Printer

/-!
# Diagnostics for other programs

A diagnostic is written as an object of its six fields in a fixed order, absent ones as
null; a list of diagnostics as an array.
-/

namespace Plotter

open Json (Document)

/-- A number of 64 bits. -/
def Json.Document.ofWord (n : UInt64) : Document := .number (toString n.toNat)

/-- A location as an object. -/
def Location.document (l : Location) : Document :=
  .object [("line", .ofWord l.line), ("column", .ofWord l.column)]

/-- A diagnostic as an object. -/
def Diagnostic.document (d : Diagnostic) : Document :=
  .object
    [("level", .string d.severity.word),
      ("code", .ofOption .string d.code),
      ("message", .string d.message),
      ("location", .ofOption Location.document d.location),
      ("expression_column", .ofOption .ofWord d.expressionColumn),
      ("rendered", .ofOption .string d.rendered)]

/-- A list of diagnostics as an array. -/
def Diagnostic.documentAll (ds : List Diagnostic) : Document :=
  .array (ds.map Diagnostic.document)

end Plotter
