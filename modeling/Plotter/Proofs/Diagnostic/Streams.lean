import Plotter.Proofs.Diagnostic.Passages
import Plotter.Proofs.Diagnostic.Shown
import Plotter.Proofs.Text.Lines

/-!
# What the compiler writes is what is told

The compiler writes line after line. On a line is either a report with those under it, or some text
that is none. However a report is laid out as JSON on its line, with its fields in whatever order
and its strings spelled in whatever way, nothing of it is lost, doubled or told out of its place.

## What is proved

* `Diagnostic.stream_exact`: the diagnostics of an output are those of the reports and lines that
  were written, in their order.
* `Item.printed_document`: each report can be written, as its plain object.
-/

namespace Plotter

/-- What is written on a line. -/
inductive Item
  /-- A report with those under it. -/
  | tree (r : Report)
  /-- A text that is no report. -/
  | raw (line : List Char)

namespace Item

/-- The passages that are written on a line: a report before those under it. -/
def passages : Item → List Passage
  | tree r => r.nodes.map .report
  | raw line => [.line (String.ofList line)]

/-- The lines on which something may be written. -/
inductive Printed : Item → List Char → Prop
  /-- A report is written as an object on one line that does not nest too deep. -/
  | tree {r : Report} {v : Json.Value} {line : List Char} (shown : r.Shows v)
    (nests : v.depth ≤ Report.nesting) (laid : Json.Layout (.value v) line) (feed : '\n' ∉ line) :
    Printed (.tree r) line
  /-- A text is written as it is. -/
  | raw {line : List Char} (seen : line.all Text.isBlank = false) (alone : Text.OneLine line)
    (other : Report.ofLine? line = none) : Printed (.raw line) line

end Item

/-- An object is laid out between braces. -/
theorem Json.Layout.braces {fs : List (Option String × Json.Value)} {text : List Char}
    (h : Json.Layout (.value (.object fs)) text) : ∃ inner, text = '\x7b' :: (inner ++ ['\x7d']) := by
  cases h with
  | noFields h => exact ⟨_, rfl⟩
  | object h => exact ⟨_, rfl⟩

namespace Item.Printed

variable {item : Item} {line : List Char}

/-- What was written is on one line. -/
theorem oneLine (h : Printed item line) : Text.OneLine line := by
  cases h with
  | raw seen alone other => exact alone
  | tree shown nests laid feed =>
    cases shown with
    | object =>
      obtain ⟨inner, rfl⟩ := laid.braces
      refine ⟨feed, ?_⟩
      rw [← List.cons_append, List.getLast?_concat]
      decide

/-- The passages of a line are those that were written on it. -/
theorem ofLine_eq (h : Printed item line) : Passage.ofLine line = item.passages := by
  cases h with
  | raw seen alone other =>
    rw [Passage.ofLine, if_neg (by simp [seen]), other]
    rfl
  | @tree r v line shown nests laid feed =>
    have read : Report.ofLine? line = some r := by
      rw [Report.ofLine?, Json.read?_of_wording laid.bare.wording, Option.bind_some, Report.ofValue?]
      exact Report.ofValueWithin?_of_shows r shown nests
    have seen : line.all Text.isBlank = false := by
      cases shown with
      | object =>
        obtain ⟨inner, rfl⟩ := laid.braces
        have brace : Text.isBlank '\x7b' = false := by decide
        rw [List.all_cons, brace, Bool.false_and]
    rw [Passage.ofLine, if_neg (by simp [seen]), read]
    rfl

end Item.Printed

/-- **Each report can be written**, unless it nests too deep. -/
theorem Item.printed_document (r : Report) (nests : r.document.value.depth ≤ Report.nesting) :
    Item.Printed (.tree r) r.document.compact :=
  .tree (Report.shows_document r) nests (Json.Document.layout_compact _ (Report.sound_document r))
    (Json.Document.not_mem_compact _ (Report.sound_document r))

/-- The passages of an output are those that were written, in their order. -/
theorem Passage.ofOutput_of_printed {items : List Item} {lines : List (List Char)}
    (printed : List.Forall₂ Item.Printed items lines) :
    Passage.ofOutput (lines.flatMap fun line => line ++ ['\n']) = items.flatMap Item.passages := by
  have oneLine : ∀ line ∈ lines, Text.OneLine line := by
    induction printed with
    | nil => simp
    | cons first rest ih => exact List.forall_mem_cons.2 ⟨first.oneLine, ih⟩
  rw [Passage.ofOutput, Text.lines_flatMap oneLine]
  induction printed with
  | nil => rfl
  | cons first rest ih =>
    rw [List.flatMap_cons, List.flatMap_cons, first.ofLine_eq,
      ih fun line member => oneLine line (by simp [member])]

namespace Diagnostic

/-- **What the compiler writes is what is told.** For all reports and other lines, in whatever way
the reports are laid out: each report gives a diagnostic that tells it, at once followed by those of
the reports under it, in order; every other line gives a note that has its text. -/
theorem stream_exact {items : List Item} {lines : List (List Char)} (start : Location)
    (printed : List.Forall₂ Item.Printed items lines) :
    ofOutput start (lines.flatMap fun line => line ++ ['\n']) =
        (items.flatMap Item.passages).map (Passage.diagnostic start) ∧
      List.Forall₂ (Passage.Tells start) (items.flatMap Item.passages)
        (ofOutput start (lines.flatMap fun line => line ++ ['\n'])) := by
  rw [← Passage.ofOutput_of_printed printed]
  exact ⟨ofOutput_eq_map start _, tells_ofOutput start _⟩

/-- A report with another under it, and then a line of text. -/
theorem stream_of_tree :
    let below : Report := .mk "`y` is \\ \"not\" here" none "help" [⟨7, 3, false⟩] [] none
    let tree : Report := .mk "no y\nin scope 😀" (some "E0425") "error"
      [⟨1, 2, false⟩, ⟨18446744073709551615, 4, true⟩] [below] (some "")
    let line := "error: aborting".toList
    List.Forall₂ (Passage.Tells ⟨1, 2⟩) [.report tree, .report below, .line "error: aborting"]
      (ofOutput ⟨1, 2⟩ ([tree.document.compact, line].flatMap fun line => line ++ ['\n'])) := by
  intro below tree line
  have first : Item.Printed (.tree tree) tree.document.compact :=
    Item.printed_document tree (by decide +kernel)
  have second : Item.Printed (.raw line) line :=
    .raw (by decide +kernel) ⟨by decide +kernel, by decide +kernel⟩ (by
      have unread : Json.read? line = none := by rfl
      rw [Report.ofLine?, unread]
      rfl)
  exact (stream_exact ⟨1, 2⟩ (.cons first (.cons second .nil))).2

end Diagnostic

end Plotter
