/-!
# Lines

A text is cut after each line feed. The line feed is not part of the line, nor is a
carriage return that stands right before it. What follows the last line feed is a
line of its own when it is not empty, and keeps a carriage return at its end.
-/

namespace Plotter.Text

/-- A line, its characters latest first, without one carriage return at its end. -/
def withoutReturn : List Char → List Char
  | '\r' :: line => line
  | line => line

/-- The lines of a text that follows `line`, the characters (latest first) of a
line already begun. -/
def linesAfter (line : List Char) : List Char → List (List Char)
  | [] => if line.isEmpty then [] else [line.reverse]
  | c :: rest =>
    if c = '\n' then (withoutReturn line).reverse :: linesAfter [] rest
    else linesAfter (c :: line) rest

/-- The lines of a text, in order. -/
def lines (text : List Char) : List (List Char) := linesAfter [] text

@[simp] theorem lines_nil : lines [] = [] := rfl

/-- Lines are cut at line feeds alone: a text that ends in one can be read apart
from what follows. -/
theorem linesAfter_append (line a b : List Char) :
    linesAfter line (a ++ '\n' :: b) = linesAfter line (a ++ ['\n']) ++ lines b := by
  induction a generalizing line with
  | nil => simp [linesAfter, lines]
  | cons c rest ih =>
    simp only [List.cons_append, linesAfter]
    split
    · rw [ih]; rfl
    · exact ih _

end Plotter.Text
