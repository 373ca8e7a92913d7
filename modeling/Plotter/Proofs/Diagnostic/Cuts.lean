import Plotter.Diagnostic.Stream
import Plotter.Proofs.Diagnostic.Locality
import Plotter.Proofs.Json.Endings

/-!
# No report is read by halves

A compiler that dies while it writes leaves a line that breaks off, and two that write at once leave
lines that run into each other. Such a line is no report, whatever is on it: it is told as it
stands.

## What is proved

* `Diagnostic.cuts_exact`: the beginning of a report, and a report with something after it, give one
  note with the text.
-/

namespace Plotter

/-- A line that is a report, an object from its first character to its last. -/
structure Report.Fills (line : List Char) : Prop where
  decoded : (ofLine? line).isSome = true
  opened : line.head? = some '\x7b'
  closed : line.getLast? = some '\x7d'
  feed : '\n' ∉ line

/-- A text that is told as it stands, in one note and with nothing else, whether a line feed follows
it or not. A carriage return before a line feed is no part of the text. -/
structure Diagnostic.ToldWhole (start : Location) (text : List Char) : Prop where
  alone : ofOutput start text = [{ severity := .note, message := String.ofList text }]
  ended : text.getLast? ≠ some '\r' →
    ofOutput start (text ++ ['\n']) = [{ severity := .note, message := String.ofList text }]

namespace Report.Fills

variable {line : List Char}

theorem exists_cons (h : Fills line) : ∃ rest, line = '\x7b' :: rest := by
  have opened := h.opened
  cases line with
  | nil => simp at opened
  | cons c rest => exact ⟨rest, by rw [Option.some.inj opened]⟩

theorem exists_read (h : Fills line) : ∃ v, Json.read? line = some v := by
  obtain ⟨r, decoded⟩ := Option.isSome_iff_exists.1 h.decoded
  obtain ⟨v, read, -⟩ := Option.bind_eq_some_iff.1 decoded
  exact ⟨v, read⟩

/-- **No report is the beginning of another.** Only blanks may follow it. -/
theorem ofLine?_append (h : Fills line) {more : List Char} {c : Char} (next : c ∈ more)
    (token : Json.isSpace c = false) : ofLine? (line ++ more) = none := by
  obtain ⟨rest, rfl⟩ := h.exists_cons
  obtain ⟨v, read⟩ := h.exists_read
  rw [ofLine?, Option.bind_eq_none_iff]
  intro w longer
  have blanks := Json.blanks_of_read?_append (.inr rfl) read longer
  rw [blanks c next] at token
  simp at token

/-- A report that breaks off is none. -/
theorem ofLine?_prefix {front back : List Char} (h : Fills (front ++ back)) (begun : front ≠ [])
    (more : back ≠ []) : ofLine? front = none := by
  have closed := h.closed
  rw [List.getLast?_append_of_ne_nil _ more] at closed
  have last : '\x7d' ∈ back := List.mem_of_getLast? closed
  obtain ⟨v, read⟩ := h.exists_read
  obtain ⟨rest, same⟩ := h.exists_cons
  cases front with
  | nil => exact absurd rfl begun
  | cons c front =>
    obtain ⟨rfl, -⟩ := List.cons.inj same
    rw [ofLine?, Option.bind_eq_none_iff]
    intro w shorter
    have blanks := Json.blanks_of_read?_append (.inr rfl) shorter read
    exact absurd (blanks _ last) (by decide)

end Report.Fills

namespace Diagnostic

variable (start : Location)

/-- A text that begins with a brace and is no report is told as it stands. -/
theorem toldWhole_of_brace {rest : List Char} (feed : '\n' ∉ '\x7b' :: rest)
    (unread : Report.ofLine? ('\x7b' :: rest) = none) : ToldWhole start ('\x7b' :: rest) := by
  have seen : ('\x7b' :: rest).all Text.isBlank = false := by
    have brace : Text.isBlank '\x7b' = false := by decide
    rw [List.all_cons, brace, Bool.false_and]
  have told : ofOutputLine start ('\x7b' :: rest) = [ofLine (String.ofList ('\x7b' :: rest))] := by
    rw [ofOutputLine, if_neg (by simp [seen]), unread]
  refine ⟨(ofOutput_of_not_mem start feed seen).trans told, fun ret => ?_⟩
  rw [ofOutput, Text.lines, Text.linesAfter_line feed, List.append_nil,
    Text.withoutReturn_reverse ret, List.reverse_reverse, List.flatMap_cons, List.flatMap_nil,
    List.append_nil]
  exact told

/-- **No report is read by halves.** A report that breaks off anywhere, and one that something runs
into, be it another report or any text that does not begin with a blank, are told as they stand. -/
theorem cuts_exact {s t : List Char} (first : Report.Fills s) (second : Report.Fills t) :
    (∀ front back, front ≠ [] → back ≠ [] → s = front ++ back → ToldWhole start front) ∧
      ToldWhole start (s ++ t) ∧
      ∀ c u, Json.isSpace c = false → '\n' ∉ c :: u → ToldWhole start (s ++ c :: u) := by
  have onward (c : Char) (u : List Char) (token : Json.isSpace c = false) (feed : '\n' ∉ c :: u) :
      ToldWhole start (s ++ c :: u) := by
    have unread : Report.ofLine? (s ++ c :: u) = none :=
      first.ofLine?_append List.mem_cons_self token
    have free : '\n' ∉ s ++ c :: u := by
      rw [List.mem_append, not_or]
      exact ⟨first.feed, feed⟩
    obtain ⟨rest, rfl⟩ := first.exists_cons
    exact toldWhole_of_brace start free unread
  refine ⟨?_, ?_, onward⟩
  · rintro front back begun more rfl
    have unread := first.ofLine?_prefix begun more
    obtain ⟨rest, same⟩ := first.exists_cons
    cases front with
    | nil => exact absurd rfl begun
    | cons c front =>
      obtain ⟨rfl, -⟩ := List.cons.inj same
      exact toldWhole_of_brace start (fun member => first.feed (List.mem_append_left _ member)) unread
  · obtain ⟨rest, rfl⟩ := second.exists_cons
    exact onward '\x7b' rest (by decide) second.feed

/-- A short report that breaks off before its last brace, and with a number after it. -/
theorem cuts_of_short :
    let line := "\x7b\"message\":\"\x7d\",\"level\":\"error\"\x7d".toList
    Report.Fills line ∧ ToldWhole ⟨1, 1⟩ line.dropLast ∧ ToldWhole ⟨1, 1⟩ (line ++ line) ∧
      ToldWhole ⟨1, 1⟩ (line ++ ['0']) := by
  intro line
  have fills : Report.Fills line :=
    ⟨by decide +kernel, by decide +kernel, by decide +kernel, by decide +kernel⟩
  obtain ⟨fronts, double, onward⟩ := cuts_exact ⟨1, 1⟩ fills fills
  exact ⟨fills, fronts line.dropLast ['\x7d'] (by decide +kernel) (by decide) (by decide +kernel),
    double, onward '0' [] (by decide) (by decide)⟩

end Diagnostic

end Plotter
