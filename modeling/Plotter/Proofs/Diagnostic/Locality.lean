import Plotter.Diagnostic.Stream
import Plotter.Proofs.Text.Lines

/-!
# Each line is read by itself

The compiler's output may be cut short, hold lines that are no reports, or come from a system that
ends lines in its own way. Nothing is carried over from one line to the next, so none of this
reaches beyond the line on which it happens.

## What is proved

* `Diagnostic.locality_exact`: the diagnostics of whole lines and of what follows them are told one
  after the other; blank lines and carriage returns before line feeds make no difference; a line
  that is not blank is told.
-/

namespace Plotter.Diagnostic

variable (start : Location)

theorem ofOutput_append {a : List Char} (h : Text.Ended a) (b : List Char) :
    ofOutput start (a ++ b) = ofOutput start a ++ ofOutput start b := by
  rw [ofOutput, h.lines_append, List.flatMap_append, ofOutput, ofOutput]

/-- Blanks tell nothing, on however many lines they are. -/
theorem ofOutput_of_blank {blank : List Char} (h : blank.all Text.isBlank = true) :
    ofOutput start blank = [] := by
  rw [ofOutput, List.flatMap_eq_nil_iff]
  intro line member
  have all : line.all Text.isBlank = true := by
    rw [List.all_eq_true] at h ⊢
    exact fun c there => h c (Text.mem_of_mem_lines member there)
  rw [ofOutputLine, if_pos all]

theorem flatten_ne_nil (r : Report) : flatten start r ≠ [] := by
  cases r
  simp [flatten]

theorem ofOutputLine_ne_nil {line : List Char} (seen : line.all Text.isBlank = false) :
    ofOutputLine start line ≠ [] := by
  rw [ofOutputLine, if_neg (by simp [seen])]
  split
  · exact flatten_ne_nil start _
  · simp

/-- A line that is left unfinished is told if it is not blank. -/
theorem ofOutput_of_not_mem {line : List Char} (feed : '\n' ∉ line)
    (seen : line.all Text.isBlank = false) : ofOutput start line = ofOutputLine start line := by
  have nonempty : line ≠ [] := by
    rintro rfl
    simp at seen
  rw [ofOutput, Text.lines_of_not_mem feed nonempty, List.flatMap_cons, List.flatMap_nil, List.append_nil]

/-- The line of which a text before a line feed consists is blank only if the text is. -/
theorem all_withoutReturn (line : List Char) :
    (Text.withoutReturn line.reverse).reverse.all Text.isBlank = line.all Text.isBlank := by
  have ret : Text.isBlank '\r' = true := by decide
  rw [List.all_reverse, ← List.all_reverse (l := line)]
  unfold Text.withoutReturn
  split
  · rename_i rest same
    rw [same, List.all_cons, ret, Bool.true_and]
  · rfl

theorem ofOutput_concat_ne_nil {line : List Char} (feed : '\n' ∉ line)
    (seen : line.all Text.isBlank = false) : ofOutput start (line ++ ['\n']) ≠ [] := by
  rw [ofOutput, Text.lines, Text.linesAfter_line feed, List.append_nil, List.flatMap_cons,
    List.flatMap_nil, List.append_nil]
  exact ofOutputLine_ne_nil start (by rw [all_withoutReturn, seen])

/-- **Each line is read by itself.** Whole lines are told without regard to what follows them;
lines of blanks can be put in or left out; each line feed can be written with a carriage return
before it; and every line that is not blank is told, be it the last or one among others, without
any effect on what comes of those. -/
theorem locality_exact :
    (∀ a b, Text.Ended a → ofOutput start (a ++ b) = ofOutput start a ++ ofOutput start b) ∧
      (∀ a blank b, Text.Ended a → blank.all Text.isBlank = true →
        ofOutput start (a ++ (blank ++ '\n' :: b)) = ofOutput start (a ++ b)) ∧
      (∀ text, '\r' ∉ text → ofOutput start (Text.withReturns text) = ofOutput start text) ∧
      ∀ a line b, Text.Ended a → '\n' ∉ line → line.all Text.isBlank = false →
        ofOutput start line ≠ [] ∧ ofOutput start (line ++ ['\n']) ≠ [] ∧
          ofOutput start (a ++ line) = ofOutput start a ++ ofOutput start line ∧
            ofOutput start (a ++ (line ++ '\n' :: b)) =
              ofOutput start a ++ (ofOutput start (line ++ ['\n']) ++ ofOutput start b) := by
  refine ⟨fun a b ended => ofOutput_append start ended b, fun a blank b ended all => ?_,
    fun text ret => ?_, fun a line b ended feed seen => ⟨?_, ?_, ?_, ?_⟩⟩
  · have line : blank ++ '\n' :: b = (blank ++ ['\n']) ++ b := by simp
    have silent : ofOutput start (blank ++ ['\n']) = [] :=
      ofOutput_of_blank start (by simp [all, Text.isBlank])
    rw [line, ofOutput_append start ended, ofOutput_append start (Text.ended_concat blank), silent,
      List.nil_append, ofOutput_append start ended]
  · rw [ofOutput, Text.lines_withReturns ret, ofOutput]
  · rw [ofOutput_of_not_mem start feed seen]
    exact ofOutputLine_ne_nil start seen
  · exact ofOutput_concat_ne_nil start feed seen
  · exact ofOutput_append start ended line
  · have whole : line ++ '\n' :: b = (line ++ ['\n']) ++ b := by simp
    rw [whole, ofOutput_append start ended, ofOutput_append start (Text.ended_concat line)]

/-- A whole line, a blank one, and a report that was cut short. -/
theorem locality_of_cut :
    let whole := "error: no\n".toList
    let blank := " \u3000\u0085".toList
    let cut := "\x7b\"message\":\"no".toList
    (Text.Ended whole ∧ blank.all Text.isBlank = true ∧ '\r' ∉ whole ++ cut ∧ '\n' ∉ cut ∧
        cut.all Text.isBlank = false) ∧
      ofOutput ⟨1, 2⟩ (whole ++ (blank ++ '\n' :: cut)) = ofOutput ⟨1, 2⟩ (whole ++ cut) ∧
      ofOutput ⟨1, 2⟩ (whole ++ cut) = ofOutput ⟨1, 2⟩ whole ++ ofOutput ⟨1, 2⟩ cut ∧
      ofOutput ⟨1, 2⟩ (Text.withReturns (whole ++ cut)) = ofOutput ⟨1, 2⟩ (whole ++ cut) ∧
      ofOutput ⟨1, 2⟩ cut ≠ [] := by
  intro whole blank cut
  have ended : Text.Ended whole := .inr (by decide)
  have all : blank.all Text.isBlank = true := by decide
  have ret : '\r' ∉ whole ++ cut := by decide
  have feed : '\n' ∉ cut := by decide
  have seen : cut.all Text.isBlank = false := by decide
  obtain ⟨append, blanks, returns, told⟩ := locality_exact ⟨1, 2⟩
  exact ⟨⟨ended, all, ret, feed, seen⟩, blanks whole blank cut ended all, append whole cut ended,
    returns (whole ++ cut) ret, (told whole cut [] ended feed seen).1⟩

end Plotter.Diagnostic
