import Plotter.Text.Replace

/-!
# Templates

A template is source text with placeholders for the package, the unit and the expression.
Each of the three occurs in it at least once.
-/

namespace Plotter

/-- What a template leaves open. -/
inductive Placeholder
  | package
  | unit
  | expression
  deriving Repr, DecidableEq

/-- The token that stands for a placeholder. -/
def Placeholder.token : Placeholder → String
  | .package => "$packageName"
  | .unit => "$unitName"
  | .expression => "$expression"

/-- The placeholders, in the order in which a lack of them is reported. -/
def Placeholder.all : List Placeholder := [.package, .unit, .expression]

/-- Whether a text holds a placeholder. -/
def Placeholder.occursIn (text : String) (p : Placeholder) : Bool :=
  Text.occurs p.token.toList text.toList

/-- A text that holds every placeholder. -/
structure Template where
  text : String
  complete : ∀ p ∈ Placeholder.all, p.occursIn text = true

namespace Template

/-- The placeholders that a text lacks. -/
def missing (text : String) : List Placeholder :=
  Placeholder.all.filter fun p => !p.occursIn text

/-- A text as a template, or the placeholders that it lacks. -/
def ofText (text : String) : Except (List Placeholder) Template :=
  if h : missing text = [] then
    .ok ⟨text, fun p hp => by
      have := List.filter_eq_nil_iff.1 h p hp
      simpa using this⟩
  else .error (missing text)

end Template

end Plotter
