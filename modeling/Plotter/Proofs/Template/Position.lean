import Mathlib
import Plotter.Proofs.Diagnostic.Passages
import Plotter.Proofs.Template.Pass

/-!
# Where the expression is

A unit says at which line and column its expression begins. The place is found before the
expression is put in, by what stands before the first token for it. Here it is read in the finished
source: lines are what line feeds cut a text into, and lines and columns are counted from one
(`Text.charAt?`). The names may be any texts, so this holds whatever they bring with them.

Lines and columns are 64-bit words. A text whose length is one too never makes them run over.

## What is proved

* `Template.occurs_named`: the names leave a token for the expression in the template.
* `SourceUnit.start_eq`: the place is the one after what stands before the expression.
* `SourceUnit.points_back`: the characters of the expression's first line are at the columns that
  the diagnostics for them are given, and no other place left of them or on another line is.
-/

namespace Plotter

/-! ### Lines and columns -/

namespace Text

/-- A text up to its first line feed. -/
def firstLine (text : List Char) : List Char := text.takeWhile (· != '\n')

/-- A text after its last line feed. -/
def lastLine (text : List Char) : List Char := (text.reverse.takeWhile (· != '\n')).reverse

/-- The character of a text at a line and a column, both counted from one. -/
def charAt? (text : List Char) : (line column : Nat) → Option Char
  | line + 1, column + 1 => ((text.splitOn '\n')[line]?).bind fun chars => chars[column]?
  | _, _ => none

variable {before rest text : List Char}

theorem length_splitOn : (text.splitOn '\n').length = text.count '\n' + 1 := by
  induction text with
  | nil => rfl
  | cons c text ih =>
    rw [List.splitOn_cons_eq_if_modifyHead, List.count_cons]
    split
    · rw [List.length_cons, ih]
    · rw [List.length_modifyHead, ih, Nat.add_zero]

theorem head_splitOn : (text.splitOn '\n')[0]? = some (firstLine text) := by
  induction text with
  | nil => rfl
  | cons c text ih =>
    rw [List.splitOn_cons_eq_if_modifyHead, firstLine, List.takeWhile_cons]
    by_cases feed : c = '\n'
    · simp [feed]
    · rw [if_neg (by simpa using feed), if_pos (by simpa using feed)]
      simp [ih, firstLine]

theorem firstLine_append (free : '\n' ∉ before) (rest : List Char) :
    firstLine (before ++ rest) = before ++ firstLine rest := by
  refine List.takeWhile_append_of_pos fun c member => ?_
  rw [bne_iff_ne]
  rintro rfl
  exact free member

theorem lastLine_of_free (free : '\n' ∉ before) : lastLine before = before := by
  have free' : '\n' ∉ before.reverse := by simpa using free
  rw [lastLine]
  simpa [firstLine] using congrArg List.reverse (firstLine_append free' [])

theorem lastLine_append (free : '\n' ∉ rest) : lastLine (before ++ '\n' :: rest) = rest := by
  have free' : '\n' ∉ rest.reverse := by simpa using free
  rw [lastLine]
  simpa [firstLine] using congrArg List.reverse (firstLine_append free' ('\n' :: before.reverse))

/-- The line in which a text goes on after another. -/
theorem line_append : ((before ++ rest).splitOn '\n')[before.count '\n']? =
    some (lastLine before ++ firstLine rest) := by
  by_cases feed : '\n' ∈ before
  · obtain ⟨last, earlier, reversed, free⟩ :=
      List.eq_append_cons_of_mem (List.mem_reverse.2 feed)
    have free' : '\n' ∉ last.reverse := by simpa using free
    obtain rfl : before = earlier.reverse ++ '\n' :: last.reverse := by
      simpa using congrArg List.reverse reversed
    rw [List.append_assoc, List.cons_append, List.splitOn_append_cons_self, lastLine_append free',
      List.getElem?_append_right]
    · rw [length_splitOn, List.count_append, List.count_cons_self, List.count_eq_zero.2 free',
        Nat.zero_add, Nat.sub_self, head_splitOn, firstLine_append free']
    · simp [length_splitOn]
  · rw [List.count_eq_zero.2 feed, head_splitOn, firstLine_append feed, lastLine_of_free feed]

/-- Where a text goes on after another, its first line is to the right of the other's last. -/
theorem charAt?_append (k : Nat) :
    charAt? (before ++ rest) (before.count '\n' + 1) ((lastLine before).length + 1 + k) =
      (firstLine rest)[k]? := by
  rw [Nat.add_right_comm, charAt?, line_append, Option.bind_some,
    List.getElem?_append_right (Nat.le_add_right ..), Nat.add_sub_cancel_left]

/-- The first line of a text is on the first line of what the text begins. -/
theorem firstLine_prefix : firstLine text <+: firstLine (text ++ rest) := by
  induction text with
  | nil => exact List.nil_prefix
  | cons c text ih =>
    rw [firstLine, List.cons_append, firstLine, List.takeWhile_cons, List.takeWhile_cons]
    split
    · exact List.cons_prefix_cons.2 ⟨rfl, ih⟩
    · exact List.nil_prefix

end Text

/-! ### The expression's place -/

namespace Template

variable {p q : Placeholder} {text : List Char}

/-- The replacement of another token leaves a token where it was. -/
theorem occurs_replace (other : p ≠ q) (v : List Char)
    (occurs : Text.occurs p.token.toList text = true) :
    Text.occurs p.token.toList (Text.replace q.token.toList v text) = true := by
  induction text using text_induction with
  | nil => exact occurs
  | token t rest ih =>
    by_cases replaced : t = q
    · rw [replaced, occurs_other_token other] at occurs
      rw [replaced, replace_token]
      exact Text.occurs_append (ih occurs)
    · rw [replace_other_token (Ne.symm replaced)]
      by_cases same : p = t
      · rw [same]
        exact occurs_token t
      · rw [occurs_other_token same] at occurs ⊢
        exact ih occurs
  | char c rest none ih =>
    rw [Text.occurs_cons_of_not (none p)] at occurs
    rw [Text.replace_cons_of_not (none q), Text.occurs, ih occurs, Bool.or_true]

/-- The names leave a token for the expression, whatever they are. -/
theorem occurs_named (template : Template) (names : UnitNames) :
    Text.occurs Placeholder.expression.token.toList (SourceUnit.named template names) = true :=
  occurs_replace (by decide) _
    (occurs_replace (by decide) _ (template.complete .expression (Placeholder.mem_all _)))

end Template

namespace SourceUnit

variable (template : Template) (names : UnitNames) (expression : String)

/-- The place of the expression is the one after what stands before the first token for it, in the
template with the names and so in the source. -/
theorem named_eq : ∃ before after after',
    named template names = before ++ Placeholder.expression.token.toList ++ after ∧
      (fill template names expression).source.toList = before ++ (expression.toList ++ after') ∧
      (fill template names expression).start = .after before := by
  have occurs := template.occurs_named names
  rw [← Text.isSome_before?, Option.isSome_iff_exists] at occurs
  obtain ⟨before, found⟩ := occurs
  have nonempty : Placeholder.expression.token.toList ≠ [] := by
    rw [Placeholder.toList_token]
    simp
  obtain ⟨after, same, replaced⟩ := Text.replace_of_before? expression.toList nonempty found
  refine ⟨before, after, Text.replace Placeholder.expression.token.toList expression.toList after,
    same, ?_, ?_⟩
  · simp only [fill, String.toList_ofList, replaced, List.append_assoc]
  · simp only [fill, found]

/-- **The place of the expression** is the one after what stands before it. -/
theorem start_eq : ∃ before after,
    (fill template names expression).source.toList = before ++ (expression.toList ++ after) ∧
      (fill template names expression).start = .after before := by
  obtain ⟨before, -, after, -, source, start⟩ := named_eq template names expression
  exact ⟨before, after, source, start⟩

end SourceUnit

/-- The words of a place do not run over. -/
theorem Location.toNat_after {before : List Char} (small : before.length + 1 < UInt64.size) :
    (Location.after before).line.toNat = before.count '\n' + 1 ∧
      (Location.after before).column.toNat = (Text.lastLine before).length + 1 := by
  have line := List.count_le_length (a := '\n') (l := before)
  have column : (Text.lastLine before).length ≤ before.length := by
    rw [Text.lastLine, List.length_reverse, ← before.length_reverse]
    exact (List.takeWhile_prefix _).length_le
  rw [Text.lastLine, List.length_reverse] at column ⊢
  exact ⟨UInt64.toNat_ofNat_of_lt (by omega), UInt64.toNat_ofNat_of_lt (by omega)⟩

/-- A place on the line where the expression begins, so many columns to the right. -/
theorem Location.expressionColumn?_of_right {start l : Location} {k : Nat}
    (line : l.line = start.line) (column : l.column.toNat = start.column.toNat + k)
    (counted : 0 < start.column.toNat) :
    (start.expressionColumn? l).map UInt64.toNat = some (k + 1) := by
  have right : start.column ≤ l.column := by
    rw [UInt64.le_iff_toNat_le]
    omega
  have bound := l.column.toNat_lt
  rw [expressionColumn?, if_pos ⟨line, right⟩, Option.map_some, UInt64.toNat_add,
    UInt64.toNat_sub_of_le _ _ right, UInt64.toNat_one, Nat.mod_eq_of_lt (by omega)]
  congr 1
  omega

/-- A place on another line, or left of the expression. -/
theorem Location.expressionColumn?_of_elsewhere {start l : Location}
    (elsewhere : l.line ≠ start.line ∨ l.column < start.column) :
    start.expressionColumn? l = none := by
  rw [expressionColumn?, if_neg]
  rintro ⟨line, right⟩
  rcases elsewhere with other | left
  · exact other line
  · exact absurd right (UInt64.not_le.2 left)

/-- The diagnostic of a passage has the column of the expression at which its place is. The first
line of the expression is `first`. -/
def Passage.PointsBack (start : Location) (first : List Char) : Passage → Diagnostic → Prop
  | report r, d => ∀ span, Report.Chosen r.spans span →
    (∀ k < first.length, span.line = start.line → span.column.toNat = start.column.toNat + k →
      d.expressionColumn.map UInt64.toNat = some (k + 1)) ∧
    (span.line ≠ start.line ∨ span.column < start.column → d.expressionColumn = none)
  | line _, d => d.expressionColumn = none

theorem Passage.Tells.pointsBack {start : Location} {first : List Char} {p : Passage} {d : Diagnostic}
    (tells : p.Tells start d) (counted : 0 < first.length → 0 < start.column.toNat) :
    p.PointsBack start first d := by
  cases p with
  | line text =>
    rw [Passage.Tells] at tells
    rw [tells]
    rfl
  | report r =>
    intro span chosen
    have column : d.expressionColumn = start.expressionColumn? ⟨span.line, span.column⟩ := by
      rw [tells.column, tells.located span chosen, Option.bind_some]
    rw [column]
    exact ⟨fun k inside line right => Location.expressionColumn?_of_right line right
      (counted (Nat.lt_of_le_of_lt (Nat.zero_le k) inside)),
      fun elsewhere => Location.expressionColumn?_of_elsewhere elsewhere⟩

namespace SourceUnit

/-- **Columns point back into the expression.** For every template, all names and every expression:
the characters of the expression's first line stand in the source at the columns from the unit's
place on; and whatever the compiler writes, a diagnostic for one of these columns is given the
number of the character, and one for another line or a column further left is given none. -/
theorem points_back (template : Template) (names : UnitNames) (expression : String)
    (small : (fill template names expression).source.length < UInt64.size) :
    let unit := fill template names expression
    let first := Text.firstLine expression.toList
    (∀ (k : Nat) (c : Char), first[k]? = some c → expression.toList[k]? = some c ∧
      Text.charAt? unit.source.toList unit.start.line.toNat (unit.start.column.toNat + k) =
        some c) ∧
    ∀ output, List.Forall₂ (Passage.PointsBack unit.start first) (Passage.ofOutput output)
      (Diagnostic.ofOutput unit.start output) := by
  intro unit first
  obtain ⟨before, after, source, start⟩ := start_eq template names expression
  have inside : first <+: expression.toList := List.takeWhile_prefix _
  have words (begun : 0 < first.length) : unit.start.line.toNat = before.count '\n' + 1 ∧
      unit.start.column.toNat = (Text.lastLine before).length + 1 := by
    have length := congrArg List.length source
    have begun' := Nat.lt_of_lt_of_le begun inside.length_le
    rw [String.length_toList, List.length_append, List.length_append] at length
    rw [start]
    exact Location.toNat_after (by omega)
  refine ⟨fun k c found => ?_, fun output => ?_⟩
  · have bound : k < first.length := (List.getElem?_eq_some_iff.1 found).1
    have reaches {text : List Char} (h : first <+: text) : text[k]? = some c := by
      obtain ⟨rest, rfl⟩ := h
      rw [List.getElem?_append_left bound, found]
    obtain ⟨line, column⟩ := words (Nat.lt_of_le_of_lt (Nat.zero_le k) bound)
    refine ⟨reaches inside, ?_⟩
    rw [line, column, source, Text.charAt?_append]
    exact reaches Text.firstLine_prefix
  · refine (Diagnostic.tells_ofOutput unit.start output).imp fun p d tells => ?_
    refine tells.pointsBack fun begun => ?_
    rw [(words begun).2]
    exact Nat.succ_pos _

/-- The third character of an expression of two lines, after letters that take several bytes. -/
theorem points_back_of_letters :
    let template : Template :=
      ⟨"// $packageName\n  é $unitName: $expression; $expression", by decide +kernel⟩
    let unit := fill template ⟨"p", "ü"⟩ "α·β\nγ"
    unit.source.length < UInt64.size ∧ unit.start = ⟨2, 8⟩ ∧
      Text.charAt? unit.source.toList 2 10 = some 'β' ∧
        ∀ output, List.Forall₂ (Passage.PointsBack ⟨2, 8⟩ "α·β".toList) (Passage.ofOutput output)
          (Diagnostic.ofOutput ⟨2, 8⟩ output) := by
  intro template unit
  have small : unit.source.length < UInt64.size := by decide +kernel
  have start : unit.start = ⟨2, 8⟩ := by decide +kernel
  have first : Text.firstLine "α·β\nγ".toList = "α·β".toList := by decide +kernel
  have pointing := points_back template ⟨"p", "ü"⟩ "α·β\nγ" small
  simp only [unit] at start
  simp only [start, first] at pointing
  exact ⟨small, start, (pointing.1 2 'β' (by decide +kernel)).2, pointing.2⟩

end SourceUnit

end Plotter
