import Plotter.Proofs.Diagnostic.Streams
import Plotter.Proofs.Template.Position

/-!
# How far the columns of an expression go

A diagnostic is given a column of the expression if its place is on the line where the expression
begins and not left of it. Nothing is asked about where the expression ends. A template may go on
after the token for the expression, and then places in its own text are told as columns of the
expression.

The places of a source are its lines and, on each of them, the columns of the characters and the one
after the last (`Text.HasPosition`). What is on the line of the expression from its place on is
`SourceUnit.onward`: the expression's first line, and more where the template goes on after it.

## What is proved

* `SourceUnit.line_eq`: what is onward begins with the first line of the expression, and is no more
  than that if the expression has several lines.
* `SourceUnit.columnsWithin_onward`, `SourceUnit.ColumnsWithin.reaches`: the columns that are given
  go up to the end of what is onward, and no less far.
* `SourceUnit.columns_exact`: so none is past the expression's end if and only if nothing follows the
  expression on its line.

## Honest scope

The compiler may write any output. Places that the source does not have are not bounded.
-/

namespace Plotter

namespace Text

/-- The line of a text with a number, counted from one. -/
def lineAt? (text : List Char) : (line : Nat) → Option (List Char)
  | line + 1 => (text.splitOn '\n')[line]?
  | 0 => none

/-- A text has a place: one of a line's characters, or the one after the last. -/
def HasPosition (text : List Char) (line column : Nat) : Prop :=
  ∃ chars, lineAt? text line = some chars ∧ 1 ≤ column ∧ column ≤ chars.length + 1

theorem length_lastLine_le (text : List Char) : (lastLine text).length ≤ text.length := by
  rw [lastLine, List.length_reverse, ← text.length_reverse]
  exact (List.takeWhile_prefix _).length_le

/-- A text ends its own first line if it has a line feed. -/
theorem firstLine_append_of_mem {text : List Char} (feed : '\n' ∈ text) (rest : List Char) :
    firstLine (text ++ rest) = firstLine text := by
  obtain ⟨first, later, rfl, free⟩ := List.eq_append_cons_of_mem feed
  rw [List.append_assoc, firstLine_append free, firstLine_append free]
  simp [firstLine]

end Text

namespace SourceUnit

/-- What is on the line of the expression, from the place of the expression on. -/
def onward (unit : SourceUnit) : List Char :=
  ((Text.lineAt? unit.source.toList unit.start.line.toNat).getD []).drop
    (unit.start.column.toNat - 1)

variable (template : Template) (names : UnitNames) (expression : String)

/-- **The line of the expression** is what stands before its place and what is onward. -/
theorem line_eq (small : (fill template names expression).source.length + 1 < UInt64.size) :
    let unit := fill template names expression
    let first := Text.firstLine expression.toList
    (∃ left, Text.lineAt? unit.source.toList unit.start.line.toNat = some (left ++ unit.onward) ∧
      unit.start.column.toNat = left.length + 1 ∧
      left.length + unit.onward.length ≤ unit.source.length) ∧
    first <+: unit.onward ∧ ('\n' ∈ expression.toList → unit.onward = first) := by
  intro unit first
  obtain ⟨before, after, source, start⟩ := start_eq template names expression
  have length := congrArg List.length source
  rw [String.length_toList, List.length_append] at length
  have shorter := Text.length_lastLine_le before
  have inside : Text.firstLine (expression.toList ++ after) <+: expression.toList ++ after :=
    List.takeWhile_prefix _
  have small' : before.length + 1 < UInt64.size := by omega
  obtain ⟨line, column⟩ := Location.toNat_after small'
  rw [← start] at line column
  have found : Text.lineAt? unit.source.toList unit.start.line.toNat =
      some (Text.lastLine before ++ Text.firstLine (expression.toList ++ after)) := by
    rw [line, source]
    exact Text.line_append
  have onward : unit.onward = Text.firstLine (expression.toList ++ after) := by
    rw [SourceUnit.onward, found, column, Option.getD_some, Nat.add_sub_cancel, List.drop_left]
  refine ⟨⟨Text.lastLine before, ?_, column, ?_⟩, ?_, fun feed => ?_⟩
  · rw [onward]
    exact found
  · rw [onward, length]
    exact Nat.add_le_add shorter inside.length_le
  · rw [onward]
    exact Text.firstLine_prefix
  · rw [onward]
    exact Text.firstLine_append_of_mem feed after

end SourceUnit

/-- A column that is given is the one of the place, counted from the expression's. -/
theorem Location.toNat_of_expressionColumn? {start l : Location} {n : UInt64}
    (given : start.expressionColumn? l = some n) (counted : 0 < start.column.toNat) :
    l.line = start.line ∧ 1 ≤ n.toNat ∧ l.column.toNat + 1 = start.column.toNat + n.toNat := by
  obtain ⟨line, right⟩ : l.line = start.line ∧ start.column ≤ l.column := by
    by_contra elsewhere
    rw [expressionColumn?, if_neg elsewhere] at given
    cases given
  have reached : l.column.toNat = start.column.toNat + (l.column.toNat - start.column.toNat) := by
    have := UInt64.le_iff_toNat_le.1 right
    omega
  have counts := expressionColumn?_of_right line reached counted
  rw [given, Option.map_some, Option.some.injEq] at counts
  exact ⟨line, by omega, by omega⟩

/-- The diagnostic of a passage at a place of the source is given one of the columns up to `last` of
the expression, or none. -/
def Passage.Within (source : List Char) (last : Nat) : Passage → Diagnostic → Prop
  | report r, d => ∀ span, Report.Chosen r.spans span →
    Text.HasPosition source span.line.toNat span.column.toNat →
      ∀ n, d.expressionColumn = some n → 1 ≤ n.toNat ∧ n.toNat ≤ last
  | line _, d => d.expressionColumn = none

namespace SourceUnit

/-- Whatever the compiler writes about places of the source, the columns of the expression that the
diagnostics are given go up to `last` at most. -/
def ColumnsWithin (unit : SourceUnit) (last : Nat) : Prop :=
  ∀ output, List.Forall₂ (Passage.Within unit.source.toList last) (Passage.ofOutput output)
    (Diagnostic.ofOutput unit.start output)

theorem ColumnsWithin.mono {unit : SourceUnit} {last further : Nat} (within : unit.ColumnsWithin last)
    (le : last ≤ further) : unit.ColumnsWithin further := by
  refine fun output => (within output).imp fun p d bounded => ?_
  cases p with
  | line text => exact bounded
  | report r =>
    intro span chosen there n given
    obtain ⟨positive, bound⟩ := bounded span chosen there n given
    exact ⟨positive, bound.trans le⟩

/-- A report of an error at a place. -/
def pointer (line column : UInt64) : Report := .mk "" none "error" [⟨line, column, true⟩] [] none

variable {unit : SourceUnit} {left : List Char}

/-- No place of the source is past the end of what is onward. -/
theorem columnsWithin_onward
    (found : Text.lineAt? unit.source.toList unit.start.line.toNat = some (left ++ unit.onward))
    (counted : unit.start.column.toNat = left.length + 1) :
    unit.ColumnsWithin (unit.onward.length + 1) := by
  refine fun output => (Diagnostic.tells_ofOutput unit.start output).imp fun p d tells => ?_
  cases p with
  | line text =>
    rw [Passage.Tells] at tells
    rw [tells]
    rfl
  | report r =>
    rintro span chosen ⟨chars, there, -, inside⟩ n given
    rw [tells.column, tells.located span chosen, Option.bind_some] at given
    obtain ⟨line, positive, column⟩ := Location.toNat_of_expressionColumn? given (by omega)
    dsimp only at line column
    rw [line, found, Option.some.injEq] at there
    rw [← there, List.length_append] at inside
    exact ⟨positive, by omega⟩

/-- The end of what is onward is told as a column of the expression, if the compiler points there. -/
theorem ColumnsWithin.reaches {last : Nat} (within : unit.ColumnsWithin last)
    (words : unit.start.column.toNat + unit.onward.length < UInt64.size)
    (found : Text.lineAt? unit.source.toList unit.start.line.toNat = some (left ++ unit.onward))
    (counted : unit.start.column.toNat = left.length + 1) : unit.onward.length + 1 ≤ last := by
  -- An output of one report, which points after the last character of the line.
  obtain ⟨column, reached⟩ : ∃ column : UInt64,
      column.toNat = unit.start.column.toNat + unit.onward.length :=
    ⟨.ofNat (unit.start.column.toNat + unit.onward.length), UInt64.toNat_ofNat_of_lt words⟩
  let r := pointer unit.start.line column
  have nests : r.document.value.depth ≤ Report.nesting := Nat.le_of_ble_eq_true rfl
  have printed : Item.Printed (.tree r) r.document.compact := Item.printed_document r nests
  have told := within ([r.document.compact].flatMap fun line => line ++ ['\n'])
  rw [Diagnostic.ofOutput_eq_map, Passage.ofOutput_of_printed (.cons printed .nil)] at told
  have first : Passage.Within unit.source.toList last (.report r) (.ofReport unit.start r) := by
    cases told with
    | cons first rest => exact first
  have there : Text.HasPosition unit.source.toList unit.start.line.toNat column.toNat := by
    refine ⟨_, found, by omega, ?_⟩
    rw [List.length_append]
    omega
  have given : (unit.start.expressionColumn? ⟨unit.start.line, column⟩).map UInt64.toNat =
      some (unit.onward.length + 1) :=
    Location.expressionColumn?_of_right rfl reached (by omega)
  obtain ⟨n, told, n_eq⟩ := Option.map_eq_some_iff.1 given
  have chosen : Report.Chosen r.spans ⟨unit.start.line, column, true⟩ :=
    .inl ⟨[], [], rfl, rfl, by simp⟩
  have bound := (first _ chosen there n told).2
  omega

variable (template : Template) (names : UnitNames) (expression : String)

/-- **The columns of an expression go up to the end of its line.** For every template, all names
and every expression: the columns that diagnostics for places of the source are given go just as far
as the line of the expression does. So none is past the end of the expression's first line if and
only if nothing follows the expression there, as when the expression has several lines. -/
theorem columns_exact (small : (fill template names expression).source.length + 1 < UInt64.size) :
    let unit := fill template names expression
    let first := Text.firstLine expression.toList
    first <+: unit.onward ∧
      (∀ last, unit.ColumnsWithin last ↔ unit.onward.length + 1 ≤ last) ∧
      (unit.ColumnsWithin (first.length + 1) ↔ unit.onward = first) ∧
      ('\n' ∈ expression.toList → unit.ColumnsWithin (first.length + 1)) := by
  intro unit first
  obtain ⟨⟨left, found, counted, inside⟩, begins, alone⟩ := line_eq template names expression small
  have words : unit.start.column.toNat + unit.onward.length < UInt64.size := by
    rw [counted, Nat.add_right_comm]
    exact Nat.lt_of_le_of_lt (Nat.succ_le_succ inside) small
  have within (last : Nat) : unit.ColumnsWithin last ↔ unit.onward.length + 1 ≤ last :=
    ⟨fun within => within.reaches words found counted, (columnsWithin_onward found counted).mono⟩
  have ends : unit.ColumnsWithin (first.length + 1) ↔ unit.onward = first := by
    rw [within]
    refine ⟨fun short => (begins.eq_of_length ?_).symm, fun same => ?_⟩
    · exact Nat.le_antisymm begins.length_le (Nat.le_of_succ_le_succ short)
    · rw [same]
  exact ⟨begins, within, ends, fun feed => ends.2 (alone feed)⟩

/-- An expression of two lines, in a template that goes on after it: the first has three characters. -/
theorem columns_of_two_lines :
    let template : Template := ⟨"// $packageName $unitName\n($expression)", by decide +kernel⟩
    let unit := fill template ⟨"p", "u"⟩ "α +\nx"
    unit.source.length + 1 < UInt64.size ∧ unit.onward = "α +".toList ∧ unit.ColumnsWithin 4 := by
  intro template unit
  have small : unit.source.length + 1 < UInt64.size := by decide +kernel
  have two : Text.firstLine "α +\nx".toList = "α +".toList := by decide +kernel
  obtain ⟨-, -, ends, several⟩ := columns_exact template ⟨"p", "u"⟩ "α +\nx" small
  rw [two] at ends several
  have within := several (by decide +kernel)
  exact ⟨small, ends.1 within, within⟩

/-- The parenthesis of the template is told as the fifth column of an expression of three. -/
theorem column_past_expression :
    let template : Template := ⟨"// $packageName $unitName\n($expression )", by decide +kernel⟩
    let unit := fill template ⟨"p", "u"⟩ "x +"
    Text.charAt? unit.source.toList 2 6 = some ')' ∧
      Text.HasPosition unit.source.toList 2 6 ∧
      (Diagnostic.ofReport unit.start (pointer 2 6)).expressionColumn = some 5 ∧
      (Text.firstLine "x +".toList).length + 1 = 4 ∧ ¬ unit.ColumnsWithin 4 := by
  intro template unit
  have found : Text.lineAt? unit.source.toList 2 = some ("(".toList ++ "x + )".toList) := by
    decide +kernel
  have onward : unit.onward = "x + )".toList := by decide +kernel
  have start : unit.start = ⟨2, 2⟩ := by decide +kernel
  refine ⟨by decide +kernel, ⟨_, found, by decide, by decide⟩, by rw [start]; decide, by decide,
    fun within => ?_⟩
  have there : Text.lineAt? unit.source.toList unit.start.line.toNat =
      some ("(".toList ++ unit.onward) := by
    rw [start, onward]
    exact found
  have reaches := within.reaches (by rw [start, onward]; decide) there (by rw [start]; decide)
  rw [onward] at reaches
  exact absurd reaches (by decide)

end SourceUnit

end Plotter
