import Mathlib
import Plotter.Compiler.Outcome
import Plotter.Evaluation
import Plotter.Proofs.Diagnostic.Passages
import Plotter.Proofs.Text.Lines

/-!
# Diagnostics as text

The text of diagnostics has the one-line form of each, followed by a line feed. The form has what
the diagnostic says and its code as they are, so it is on one line only if they are. The compiler
may well put a line feed into a message: it is written as an escape in its report, and is a line
feed again once the report was read. A line that is no report never brings one in.

## What is proved

* `Diagnostic.feeds_renderAll`: how many line feeds there are in the text.
* `Diagnostic.listed_renderAll_iff`: each diagnostic has a line of its own there just in case none
  has a line feed in its message or its code.
* `Run.listed_complaints_iff`: of a run that failed, that is so just in case no report that it wrote,
  be it under another, has one.
-/

namespace Plotter

/-! ### Line feeds -/

namespace Text

/-- How many line feeds a text has. -/
def feeds (text : String) : Nat := text.toList.count '\n'

@[simp] theorem feeds_append (a b : String) : feeds (a ++ b) = feeds a + feeds b := by
  rw [feeds, String.toList_append, List.count_append, feeds, feeds]

theorem feeds_eq_zero_iff {text : String} : feeds text = 0 ↔ '\n' ∉ text.toList :=
  List.count_eq_zero

/-- There is no line feed among digits. -/
@[simp] theorem feeds_repr (n : Nat) : feeds n.repr = 0 := by
  rw [feeds_eq_zero_iff, Nat.toList_repr]
  intro member
  exact absurd (Nat.isDigit_of_mem_toDigits (by decide) (by decide) member) (by decide)

end Text

@[simp] theorem Severity.feeds_word (s : Severity) : Text.feeds s.word = 0 := by
  cases s <;> decide +kernel

/-- The words for a status are on one line. -/
theorem ExitStatus.feeds_words (s : ExitStatus) : Text.feeds s.words = 0 := by
  cases s with
  | exited code =>
    have heading : Text.feeds "exit status: " = 0 := by decide +kernel
    simp [words, heading]
  | killed signal =>
    have heading : Text.feeds "signal: " = 0 := by decide +kernel
    have opened : Text.feeds " (" = 0 := by decide +kernel
    have closed : Text.feeds ")" = 0 := by decide +kernel
    have names : ∀ name ∈ signalNames, Text.feeds name = 0 := by decide +kernel
    simp only [words, Text.feeds_append, heading, Nat.toString_eq_repr, Text.feeds_repr,
      Nat.zero_add]
    split
    · rename_i name named
      have listed : name ∈ signalNames := by
        split at named
        · exact List.mem_of_getElem? named
        · cases named
      simp [opened, closed, names name listed]
    · rfl

/-! ### One diagnostic on a line -/

namespace Diagnostic

/-- The line feeds in what a diagnostic says, and in its code. -/
def breaks (d : Diagnostic) : Nat := Text.feeds d.message + d.code.elim 0 Text.feeds

/-- A text lists diagnostics if each has one line there, which is its one-line form, and comes in its
place. Nothing stands after the last line feed. -/
structure Listed (ds : List Diagnostic) (text : String) : Prop where
  feeds : Text.feeds text = ds.length
  rows : text.toList.splitOn '\n' = ds.map (fun d => d.display.toList) ++ [[]]

theorem feeds_display (d : Diagnostic) : Text.feeds d.display = d.breaks := by
  have opened : Text.feeds "[" = 0 := by decide +kernel
  have closed : Text.feeds "]: " = 0 := by decide +kernel
  have colon : Text.feeds ": " = 0 := by decide +kernel
  have column : Text.feeds " (at column " = 0 := by decide +kernel
  have behind : Text.feeds ")" = 0 := by decide +kernel
  unfold breaks
  cases filed : d.code <;> cases pointed : d.expressionColumn <;>
    simp [display, filed, pointed, opened, closed, colon, column, behind, Nat.add_comm]

theorem renderAll_cons (d : Diagnostic) (ds : List Diagnostic) :
    renderAll (d :: ds) = d.display ++ "\n" ++ renderAll ds := by
  simp [renderAll, String.join_cons]

/-- **The line feeds in the text**: one for each diagnostic, and those in what it says. -/
theorem feeds_renderAll (ds : List Diagnostic) :
    Text.feeds (renderAll ds) = ds.length + (ds.map breaks).sum := by
  induction ds with
  | nil => decide +kernel
  | cons d ds ih =>
    have feed : Text.feeds "\n" = 1 := by decide +kernel
    rw [renderAll_cons, Text.feeds_append, Text.feeds_append, feeds_display, feed, ih,
      List.length_cons, List.map_cons, List.sum_cons]
    omega

/-- What is on one line each makes one line each. -/
theorem splitOn_renderAll {ds : List Diagnostic} (alone : ∀ d ∈ ds, d.breaks = 0) :
    (renderAll ds).toList.splitOn '\n' = ds.map (fun d => d.display.toList) ++ [[]] := by
  induction ds with
  | nil => rfl
  | cons d ds ih =>
    rw [List.forall_mem_cons] at alone
    have free : '\n' ∉ d.display.toList := by
      rw [← Text.feeds_eq_zero_iff, feeds_display, alone.1]
    have feed : "\n".toList = ['\n'] := rfl
    rw [renderAll_cons, String.toList_append, String.toList_append, feed, List.append_assoc,
      List.singleton_append, List.splitOn_append_cons_self_of_not_mem free, ih alone.2,
      List.map_cons, List.cons_append]

/-- **Each diagnostic has a line of its own just in case none brings a line feed.** -/
theorem listed_renderAll_iff (ds : List Diagnostic) :
    Listed ds (renderAll ds) ↔ ∀ d ∈ ds, d.breaks = 0 := by
  constructor
  · intro listed d member
    have total := feeds_renderAll ds
    rw [listed.feeds] at total
    have unbroken : (ds.map breaks).sum = 0 := by omega
    exact List.sum_eq_zero_iff.1 unbroken _ (List.mem_map_of_mem member)
  · intro alone
    have unbroken : (ds.map breaks).sum = 0 := List.sum_eq_zero_iff.2 (by simpa using alone)
    exact ⟨by rw [feeds_renderAll, unbroken, Nat.add_zero], splitOn_renderAll alone⟩

end Diagnostic

/-! ### What the compiler puts into a diagnostic -/

/-- What a report says, and its code, are on one line. -/
def Report.OneLine (r : Report) : Prop :=
  '\n' ∉ r.message.toList ∧ ∀ code, r.code = some code → '\n' ∉ code.toList

theorem Diagnostic.breaks_ofReport_iff (start : Location) (r : Report) :
    (ofReport start r).breaks = 0 ↔ r.OneLine := by
  have tells := tells_ofReport start r
  rw [breaks, tells.message, tells.code, Nat.add_eq_zero_iff, Text.feeds_eq_zero_iff,
    Report.OneLine]
  cases r.code with
  | some code => simp [Text.feeds_eq_zero_iff]
  | none => simp

/-- A line that is told as it is brings no line feed. -/
theorem Passage.not_mem_of_line {output : List Char} {text : String}
    (member : Passage.line text ∈ ofOutput output) : '\n' ∉ text.toList := by
  obtain ⟨line, among, told⟩ := List.mem_flatMap.1 member
  unfold ofLine at told
  split at told
  · cases told
  · split at told
    · simp at told
    · obtain rfl : text = String.ofList line := by simpa using told
      rw [String.toList_ofList]
      exact Text.not_mem_of_mem_lines among

/-- The diagnostics of an output are on one line each just in case its reports are. -/
theorem Diagnostic.breaks_ofOutput_iff (start : Location) (output : List Char) :
    (∀ d ∈ ofOutput start output, d.breaks = 0) ↔
      ∀ r, Passage.report r ∈ Passage.ofOutput output → r.OneLine := by
  rw [ofOutput_eq_map, List.forall_mem_map]
  constructor
  · exact fun alone r member => (breaks_ofReport_iff start r).1 (alone (.report r) member)
  · intro alone p member
    cases p with
    | report r => exact (breaks_ofReport_iff start r).2 (alone r member)
    | line text =>
      have free := Text.feeds_eq_zero_iff.2 (Passage.not_mem_of_line member)
      simpa [Passage.diagnostic, ofLine, breaks] using free

namespace Run

/-- The error that stands for a run that reports none is on one line. -/
theorem breaks_unexplained (run : Run) : run.unexplained.breaks = 0 := by
  have heading : Text.feeds "rustc exited with " = 0 := by decide +kernel
  simp [unexplained, Diagnostic.ofError, Diagnostic.breaks, heading, run.status.feeds_words]

/-- **Each complaint of a run has a line of its own just in case no report that the run wrote has a
line feed** in what it says or in its code. -/
theorem listed_complaints_iff (run : Run) (start : Location) :
    Diagnostic.Listed (run.complaints start) (Diagnostic.renderAll (run.complaints start)) ↔
      ∀ r, Passage.report r ∈ Passage.ofOutput (Text.Utf8.decodeLenient run.report) →
        r.OneLine := by
  rw [Diagnostic.listed_renderAll_iff, ← Diagnostic.breaks_ofOutput_iff start]
  change _ ↔ ∀ d ∈ run.diagnostics start, d.breaks = 0
  simp only [complaints]
  split
  · rfl
  · rw [List.forall_mem_append, List.forall_mem_singleton, run.breaks_unexplained]
    exact and_iff_left rfl

end Run

end Plotter
