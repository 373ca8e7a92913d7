import Plotter.Text.Lines

/-!
# Lines that were written are read

A line can be read back from a text in which it is followed by a line feed, unless it holds a line
feed itself or ends in a carriage return. Lines are cut one by one: what stands before a line feed
has no part in what comes of the text after it.
-/

namespace Plotter.Text

/-- A text that is one line of its own. -/
structure OneLine (line : List Char) : Prop where
  feed : '\n' ∉ line
  ret : line.getLast? ≠ some '\r'

theorem withoutReturn_reverse {line : List Char} (h : line.getLast? ≠ some '\r') :
    withoutReturn line.reverse = line.reverse := by
  rw [← List.head?_reverse] at h
  unfold withoutReturn
  split
  · rename_i rest same
    rw [same] at h
    exact absurd rfl h
  · rfl

/-- A line with its line feed is taken whole. -/
theorem linesAfter_line {line : List Char} (feed : '\n' ∉ line) (earlier : List Char) :
    linesAfter earlier (line ++ ['\n']) = [(withoutReturn (line.reverse ++ earlier)).reverse] := by
  induction line generalizing earlier with
  | nil => simp [linesAfter]
  | cons c line ih =>
    simp only [List.mem_cons, not_or] at feed
    rw [List.cons_append, linesAfter, if_neg (Ne.symm feed.1), ih feed.2]
    simp

/-- **Lines that were written are read**, each as it was. -/
theorem lines_flatMap {ls : List (List Char)} (h : ∀ line ∈ ls, OneLine line) :
    lines (ls.flatMap fun line => line ++ ['\n']) = ls := by
  induction ls with
  | nil => rfl
  | cons line ls ih =>
    obtain ⟨feed, ret⟩ := h line (by simp)
    have first : linesAfter [] (line ++ ['\n']) = [line] := by
      rw [linesAfter_line feed, List.append_nil, withoutReturn_reverse ret, List.reverse_reverse]
    rw [List.flatMap_cons, lines, List.append_assoc, List.singleton_append, linesAfter_append, first,
      ih fun line member => h line (by simp [member]), List.singleton_append]

/-! ### Lines of texts put together -/

/-- A text of whole lines: the last of them is not left unfinished. -/
def Ended (text : List Char) : Prop := text = [] ∨ text.getLast? = some '\n'

/-- What follows whole lines is cut by itself. -/
theorem Ended.lines_append {a : List Char} (h : Ended a) (b : List Char) :
    lines (a ++ b) = lines a ++ lines b := by
  rcases h with rfl | last
  · rfl
  · obtain ⟨front, rfl⟩ := List.getLast?_eq_some_iff.1 last
    rw [List.append_assoc, List.singleton_append]
    exact linesAfter_append [] front b

theorem ended_concat (text : List Char) : Ended (text ++ ['\n']) := .inr List.getLast?_concat

/-- What has no line feed belongs to the line that was begun. -/
theorem linesAfter_append_of_not_mem {line : List Char} (feed : '\n' ∉ line)
    (earlier rest : List Char) :
    linesAfter earlier (line ++ rest) = linesAfter (line.reverse ++ earlier) rest := by
  induction line generalizing earlier with
  | nil => rfl
  | cons c line ih =>
    simp only [List.mem_cons, not_or] at feed
    have kept : linesAfter earlier (c :: (line ++ rest)) = linesAfter (c :: earlier) (line ++ rest) := by
      rw [linesAfter, if_neg (Ne.symm feed.1)]
    rw [List.cons_append, kept, ih feed.2, List.reverse_cons, List.append_assoc,
      List.singleton_append]

theorem linesAfter_of_not_mem {line : List Char} (feed : '\n' ∉ line) (earlier : List Char) :
    linesAfter earlier line = linesAfter (line.reverse ++ earlier) [] := by
  simpa using linesAfter_append_of_not_mem feed earlier []

/-- A line that is left unfinished is taken as it is. -/
theorem lines_of_not_mem {line : List Char} (feed : '\n' ∉ line) (nonempty : line ≠ []) :
    lines line = [line] := by
  rw [lines, linesAfter_of_not_mem feed, List.append_nil, linesAfter]
  simp [nonempty]

theorem mem_of_mem_withoutReturn {line : List Char} {c : Char} (h : c ∈ withoutReturn line) :
    c ∈ line := by
  unfold withoutReturn at h
  split at h
  · exact List.mem_cons_of_mem _ h
  · exact h

theorem mem_of_mem_linesAfter {text earlier line : List Char} {c : Char}
    (h : line ∈ linesAfter earlier text) (member : c ∈ line) : c ∈ earlier ∨ c ∈ text := by
  induction text generalizing earlier with
  | nil =>
    unfold linesAfter at h
    split at h
    · simp at h
    · obtain rfl := List.mem_singleton.1 h
      exact .inl (List.mem_reverse.1 member)
  | cons d text ih =>
    rw [linesAfter] at h
    split at h
    · rcases List.mem_cons.1 h with rfl | later
      · exact .inl (mem_of_mem_withoutReturn (List.mem_reverse.1 member))
      · rcases ih later with none | there
        · simp at none
        · exact .inr (List.mem_cons_of_mem _ there)
    · rcases ih h with here | there
      · rcases List.mem_cons.1 here with rfl | before
        · exact .inr List.mem_cons_self
        · exact .inl before
      · exact .inr (List.mem_cons_of_mem _ there)

/-- A line has no characters but those of its text. -/
theorem mem_of_mem_lines {text line : List Char} {c : Char} (h : line ∈ lines text)
    (member : c ∈ line) : c ∈ text := by
  rcases mem_of_mem_linesAfter h member with none | there
  · simp at none
  · exact there

theorem not_mem_of_mem_linesAfter {text earlier line : List Char} (feed : '\n' ∉ earlier)
    (h : line ∈ linesAfter earlier text) : '\n' ∉ line := by
  induction text generalizing earlier with
  | nil =>
    unfold linesAfter at h
    split at h
    · simp at h
    · rwa [List.mem_singleton.1 h, List.mem_reverse]
  | cons c text ih =>
    rw [linesAfter] at h
    split at h
    · rcases List.mem_cons.1 h with rfl | later
      · exact fun member => feed (mem_of_mem_withoutReturn (List.mem_reverse.1 member))
      · exact ih (by simp) later
    · rename_i other
      exact ih (by simp [feed, Ne.symm other]) h

/-- There is no line feed in a line. -/
theorem not_mem_of_mem_lines {text line : List Char} (h : line ∈ lines text) : '\n' ∉ line :=
  not_mem_of_mem_linesAfter (by simp) h

/-- A text with a carriage return before each line feed. -/
def withReturns (text : List Char) : List Char :=
  text.flatMap fun c => if c = '\n' then ['\r', '\n'] else [c]

theorem linesAfter_withReturns {text earlier : List Char} (ret : '\r' ∉ text)
    (begun : '\r' ∉ earlier) :
    linesAfter earlier (withReturns text) = linesAfter earlier text := by
  induction text generalizing earlier with
  | nil => rfl
  | cons c text ih =>
    simp only [List.mem_cons, not_or] at ret
    rw [withReturns, List.flatMap_cons, ← withReturns]
    by_cases feed : c = '\n'
    · subst feed
      have kept : withoutReturn earlier = earlier := by
        unfold withoutReturn
        split
        · exact absurd List.mem_cons_self begun
        · rfl
      have taken : withoutReturn ('\r' :: earlier) = earlier := rfl
      rw [if_pos rfl, List.cons_append, List.singleton_append, linesAfter, if_neg (by decide),
        linesAfter, if_pos rfl, taken, linesAfter, if_pos rfl, kept, ih ret.2 List.not_mem_nil]
    · rw [if_neg feed, List.singleton_append, linesAfter, if_neg feed, linesAfter, if_neg feed]
      exact ih ret.2 (by simp [begun, ret.1])

/-- **A carriage return before each line feed makes no difference.** -/
theorem lines_withReturns {text : List Char} (ret : '\r' ∉ text) :
    lines (withReturns text) = lines text :=
  linesAfter_withReturns ret List.not_mem_nil

end Plotter.Text
