/-!
# Blank characters

The twenty-five characters with Unicode's property `White_Space`, and what is left
of a text when they are taken from its ends. The class is wider than the blanks of
a keyboard: a no-break space and an ideographic space are blank, a zero width space
is not.
-/

namespace Plotter.Text

/-- The property `White_Space`, by code point. -/
def isBlank (c : Char) : Bool :=
  let n := c.toNat
  (0x9 ≤ n && n ≤ 0xD) || n == 0x20 || n == 0x85 || n == 0xA0 || n == 0x1680 ||
    (0x2000 ≤ n && n ≤ 0x200A) || n == 0x2028 || n == 0x2029 || n == 0x202F ||
    n == 0x205F || n == 0x3000

/-- A text without the blanks at its two ends. -/
def trim (text : List Char) : List Char :=
  ((text.dropWhile isBlank).reverse.dropWhile isBlank).reverse

/-- The core library's blanks are blank here too. -/
theorem isBlank_of_isWhitespace {c : Char} (h : c.isWhitespace = true) : isBlank c = true := by
  simp only [Char.isWhitespace, Bool.or_eq_true, decide_eq_true_eq] at h
  rcases h with ((h | h) | h) | h <;> subst h <;> decide

/-- A text of blanks alone trims to nothing. -/
theorem trim_eq_nil_of_all {text : List Char} (h : text.all isBlank = true) : trim text = [] := by
  have : text.dropWhile isBlank = [] := by
    induction text with
    | nil => rfl
    | cons c rest ih =>
      simp only [List.all_cons, Bool.and_eq_true] at h
      simp [h.1, ih h.2]
  simp [trim, this]

end Plotter.Text
