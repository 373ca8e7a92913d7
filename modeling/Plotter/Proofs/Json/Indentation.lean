import Mathlib
import Plotter.Proofs.Json.Printing

/-!
# What is printed over several lines can be read

The new lines and the blanks that set a document out stand where blanks may stand, so the document
is a layout of its value all the same.

## What is proved

* `Document.layout_pretty`: a document over several lines is a layout of its value.
* `Document.read?_prettyText`: the reader reads that value, with a line feed after it or not.
-/

namespace Plotter.Json

namespace Document

theorem blanks_single {c : Char} (h : isSpace c = true) : Blanks [c] := by
  simpa [Blanks] using h

theorem blanks_newline (depth : Nat) : Blanks (newline depth) := by
  intro c member
  rcases List.mem_cons.1 member with rfl | blank
  · rfl
  · rw [List.eq_of_mem_replicate blank]
    rfl

/-- A field on a line of its own. -/
theorem layout_prettyField (depth : Nat) (key : String) {v : Value} {text after : List Char}
    (h : Layout (.value v) text) (end' : Blanks after) :
    Layout (.field key v) (newline depth ++ literal key ++ ':' :: ' ' :: text ++ after) := by
  have whole := @Layout.key key _ _ _ _ _ (blanks_newline depth) (spells_flatMap key.toList) .nil
    (.padded (blanks_single (c := ' ') (by decide)) end' h)
  simpa [literal] using whole

mutual

/-- **A document over several lines is a layout of its value.** -/
theorem layout_pretty (depth : Nat) (d : Document) (sound : d.Sound) :
    Layout (.value d.value) (d.pretty depth) := by
  match d with
  | .null => exact .null
  | .bool true => exact .true
  | .bool false => exact .false
  | .number digits =>
    obtain ⟨sign, whole, fraction, exponent, h, same⟩ := sound
    rw [value, pretty, same]
    exact .number h
  | .string text => exact .string (spells_flatMap text.toList)
  | .array [] => exact .noItems .nil
  | .array (item :: items) =>
    have whole := Layout.array (layout_prettyItems (depth + 1) (item :: items) (by simp) sound
      (blanks_newline depth))
    simpa [pretty] using whole
  | .object [] => exact .noFields .nil
  | .object (field :: fields) =>
    have whole := Layout.object (layout_prettyFields (depth + 1) (field :: fields) (by simp) sound
      (blanks_newline depth))
    simpa [pretty] using whole

theorem layout_prettyItems (depth : Nat) (items : List Document) (nonempty : items ≠ [])
    (sound : SoundItems items) {after : List Char} (end' : Blanks after) :
    Layout (.items (values items)) (prettyItems depth items ++ after) := by
  match items with
  | [] => exact absurd rfl nonempty
  | [item] =>
    have whole := Layout.item (.padded (blanks_newline depth) end' (layout_pretty depth item sound.1))
    simpa [prettyItems] using whole
  | item :: next :: items =>
    have whole := Layout.items (.padded (blanks_newline depth) .nil (layout_pretty depth item sound.1))
      (layout_prettyItems depth (next :: items) (by simp) sound.2 end')
    simpa [prettyItems] using whole

theorem layout_prettyFields (depth : Nat) (fields : List (String × Document)) (nonempty : fields ≠ [])
    (sound : SoundFields fields) {after : List Char} (end' : Blanks after) :
    Layout (.fields (fieldValues fields)) (prettyFields depth fields ++ after) := by
  match fields with
  | [] => exact absurd rfl nonempty
  | [(key, item)] =>
    have whole := Layout.field (layout_prettyField depth key (layout_pretty depth item sound.1) end')
    simpa [prettyFields] using whole
  | (key, item) :: next :: fields =>
    have whole := Layout.fields (layout_prettyField depth key (layout_pretty depth item sound.1) .nil)
      (layout_prettyFields depth (next :: fields) (by simp) sound.2 end')
    simpa [prettyFields] using whole

end

/-- **The reader reads what was printed over several lines**, and a line feed after it. -/
theorem read?_prettyText (d : Document) (sound : d.Sound) :
    read? (d.prettyText ++ "\n").toList = some d.value := by
  have whole := Layout.padded .nil (blanks_single (c := '\n') (by decide))
    (layout_pretty 0 d sound)
  have read := read?_of_wording whole.wording
  simpa [prettyText] using read

end Document

end Plotter.Json
