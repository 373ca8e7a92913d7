import Mathlib.Data.List.Forall2
import Plotter.Diagnostic.Stream

/-!
# What the compiler's output tells

The compiler's output is a list of passages, one diagnostic each: the reports of its lines, each
followed at once by those under it, and the lines that are no reports. Which passages there are does
not depend on where the user's expression is; only the columns in the diagnostics do.

## What is proved

* `Report.chosenSpan_eq_some_iff`, `Report.chosenSpan_eq_none_iff`: which place a report points at.
* `Diagnostic.ofOutput_eq_map`: the diagnostics of an output are those of its passages, in order.
* `Diagnostic.tells_ofOutput`: each of them tells what its passage does.
-/

namespace Plotter

/-! ### Reports -/

namespace Report

/-- What a report says. -/
def message : Report → String
  | .mk message .. => message

/-- The code that a report is filed under. -/
def code : Report → Option String
  | .mk _ code .. => code

/-- The level of a report. -/
def level : Report → String
  | .mk _ _ level .. => level

/-- The places that a report is about. -/
def spans : Report → List Span
  | .mk _ _ _ spans .. => spans

/-- The reports under a report. -/
def children : Report → List Report
  | .mk _ _ _ _ children _ => children

/-- The rendering of a report. -/
def rendered : Report → Option String
  | .mk _ _ _ _ _ rendered => rendered

mutual

/-- A report and all those under it, each before those under it. -/
def nodes : Report → List Report
  | .mk message code level spans children rendered =>
    .mk message code level spans children rendered :: nodesAll children

/-- Reports and all those under them. -/
def nodesAll : List Report → List Report
  | [] => []
  | report :: reports => nodes report ++ nodesAll reports

end

/-- The place that a report points at: its first primary place, or its first where none is. -/
def Chosen (spans : List Span) (span : Span) : Prop :=
  (∃ before after, spans = before ++ span :: after ∧ span.primary = true ∧
    ∀ other ∈ before, other.primary = false) ∨
  (spans.head? = some span ∧ ∀ other ∈ spans, other.primary = false)

theorem chosenSpan_eq_some_iff {spans : List Span} {span : Span} :
    chosenSpan spans = some span ↔ Chosen spans span := by
  unfold chosenSpan Chosen
  cases found : spans.find? (·.primary) with
  | some first =>
    dsimp only
    obtain ⟨primary, before, after, same, others⟩ := List.find?_eq_some_iff_append.1 found
    constructor
    · intro h
      obtain rfl := Option.some.inj h
      exact .inl ⟨before, after, same, primary, by simpa using others⟩
    · rintro (⟨before', after', rfl, primary', others'⟩ | ⟨-, others'⟩)
      · rw [← found]
        exact List.find?_eq_some_iff_append.2 ⟨primary', before', after', rfl, by simpa using others'⟩
      · have := others' first (by simp [same])
        rw [primary] at this
        exact absurd this (by simp)
  | none =>
    rw [List.find?_eq_none] at found
    constructor
    · exact fun h => .inr ⟨h, by simpa using found⟩
    · rintro (⟨before, after, rfl, primary, -⟩ | ⟨h, -⟩)
      · exact absurd primary (found span (by simp))
      · exact h

theorem chosenSpan_eq_none_iff {spans : List Span} : chosenSpan spans = none ↔ spans = [] := by
  unfold chosenSpan
  cases spans with
  | nil => simp
  | cons span spans => split <;> simp

/-- A diagnostic that tells what a report does, of an expression that begins at `start`. -/
structure Tells (start : Location) (r : Report) (d : Diagnostic) : Prop where
  message : d.message = r.message
  code : d.code = r.code
  rendered : d.rendered = r.rendered
  severity : d.severity = .ofLevel r.level
  located : ∀ span, Chosen r.spans span → d.location = some ⟨span.line, span.column⟩
  unlocated : r.spans = [] → d.location = none
  column : d.expressionColumn = d.location.bind start.expressionColumn?

end Report

/-! ### Passages -/

/-- A part of the output that gives one diagnostic. -/
inductive Passage
  /-- A report, those under it apart. -/
  | report (r : Report)
  /-- A line that is no report. -/
  | line (text : String)

namespace Passage

/-- The diagnostic of a passage. -/
def diagnostic (start : Location) : Passage → Diagnostic
  | report r => .ofReport start r
  | line text => .ofLine text

/-- A diagnostic that tells what a passage does: a line is told as it is, and nothing else. -/
def Tells (start : Location) : Passage → Diagnostic → Prop
  | report r, d => r.Tells start d
  | line text, d => d = { severity := .note, message := text }

/-- The passages of a line. -/
def ofLine (line : List Char) : List Passage :=
  if line.all Text.isBlank then []
  else match Report.ofLine? line with
    | some r => r.nodes.map .report
    | none => [.line (String.ofList line)]

/-- The passages of an output. -/
def ofOutput (output : List Char) : List Passage := (Text.lines output).flatMap ofLine

end Passage

namespace Diagnostic

variable (start : Location)

theorem tells_ofReport (r : Report) : r.Tells start (ofReport start r) := by
  cases r with
  | mk message code level spans children rendered =>
    refine ⟨rfl, rfl, rfl, rfl, fun span chosen => ?_, fun missing => ?_, rfl⟩
    · have found := Report.chosenSpan_eq_some_iff.2 chosen
      rw [Report.spans] at found
      simp [ofReport, found]
    · have unfound := Report.chosenSpan_eq_none_iff.2 missing
      rw [Report.spans] at unfound
      simp [ofReport, unfound]

theorem tells_diagnostic (p : Passage) : p.Tells start (p.diagnostic start) := by
  cases p with
  | report r => exact tells_ofReport start r
  | line text => rfl

mutual

theorem flatten_eq_map (r : Report) : flatten start r = r.nodes.map (ofReport start) := by
  cases r with
  | mk message code level spans children rendered =>
    rw [flatten, Report.nodes, List.map_cons, flattenAll_eq_map children]

theorem flattenAll_eq_map (rs : List Report) :
    flattenAll start rs = (Report.nodesAll rs).map (ofReport start) := by
  cases rs with
  | nil => rfl
  | cons r rs =>
    rw [flattenAll, Report.nodesAll, List.map_append, flatten_eq_map r, flattenAll_eq_map rs]

end

theorem ofOutputLine_eq_map (line : List Char) :
    ofOutputLine start line = (Passage.ofLine line).map (Passage.diagnostic start) := by
  unfold ofOutputLine Passage.ofLine
  split
  · rfl
  · cases Report.ofLine? line with
    | some r =>
      change flatten start r = (r.nodes.map .report).map (Passage.diagnostic start)
      rw [flatten_eq_map, List.map_map]
      rfl
    | none => rfl

/-- The diagnostics of an output are those of its passages, in order. -/
theorem ofOutput_eq_map (output : List Char) :
    ofOutput start output = (Passage.ofOutput output).map (Passage.diagnostic start) := by
  rw [ofOutput, Passage.ofOutput, List.map_flatMap]
  exact List.flatMap_congr fun line _ => ofOutputLine_eq_map start line

/-- **Each diagnostic tells what its passage does.** -/
theorem tells_ofOutput (output : List Char) :
    List.Forall₂ (Passage.Tells start) (Passage.ofOutput output) (ofOutput start output) := by
  rw [ofOutput_eq_map, List.forall₂_map_right_iff, List.forall₂_same]
  exact fun p _ => tells_diagnostic start p

end Diagnostic

end Plotter
