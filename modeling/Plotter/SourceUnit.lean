import Plotter.Diagnostic.Basic
import Plotter.Naming
import Plotter.Template.Basic

/-!
# Source units

A source unit is a template with its placeholders filled in, and the place where the
expression begins in it. The names go in first and the expression last, so that what looks
like a placeholder in an expression is left alone.
-/

namespace Plotter

/-- A unit ready to be compiled. -/
structure SourceUnit where
  names : UnitNames
  source : String
  /-- Where the first occurrence of the expression begins. -/
  start : Location
  deriving Repr, DecidableEq

/-- The place after a text: one line more than it has line feeds, one column more than it
has characters after the last of them. -/
def Location.after (text : List Char) : Location where
  line := UInt64.ofNat (text.count '\n' + 1)
  column := UInt64.ofNat ((text.reverse.takeWhile (· != '\n')).length + 1)

namespace SourceUnit

/-- A template's text with the names filled in. -/
def named (template : Template) (names : UnitNames) : List Char :=
  Text.replace Placeholder.unit.token.toList names.unit.toList
    (Text.replace Placeholder.package.token.toList names.package.toList template.text.toList)

/-- The unit that a template becomes with names and an expression. -/
def fill (template : Template) (names : UnitNames) (expression : String) : SourceUnit :=
  let text := named template names
  let token := Placeholder.expression.token.toList
  { names
    source := String.ofList (Text.replace token expression.toList text)
    start := match Text.before? token text with
      | some before => .after before
      | none => ⟨1, 1⟩ }

end SourceUnit

end Plotter
