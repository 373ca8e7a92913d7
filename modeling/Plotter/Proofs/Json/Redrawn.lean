import Mathlib
import Plotter.Proofs.Json.Printing
import Plotter.Proofs.Json.Recognition
import Plotter.Proofs.Text.Redrawn

/-!
# JSON but for the digits of chance

The digits of chance can be in a JSON text only between quotes, since nowhere else an underscore may
stand, and there they stand for themselves, since no escape goes on with an underscore. So a text
that differs from a wording of a value in such digits is a wording too, of a value that differs in
the same digits (`Value.Redrawn`).

The proofs go along the grammar (`Wording`), not along the reader: `read?_eq_some_iff` leads from the
one to the other.

## What is proved

* `Wording.redrawn`: a wording with other digits is a wording.
* `read?_redrawn`: texts that are the same but for the digits are read as values that are, or both
  are no values.
-/

namespace Plotter.Json

variable {P : UInt64 → UInt64 → Prop}

/-- Values, and pieces of values, that are the same but for the digits of chance. -/
inductive Piece.Redrawn (P : UInt64 → UInt64 → Prop) : (piece piece' : Piece) → Prop
  | null : Redrawn P (.value .null) (.value .null)
  | bool (b : Bool) : Redrawn P (.value (.bool b)) (.value (.bool b))
  | number (literal : List Char) : Redrawn P (.value (.number literal)) (.value (.number literal))
  | string {text text' : Option String} (h : Option.Rel (RedrawnText P) text text') :
      Redrawn P (.value (.string text)) (.value (.string text'))
  | array {vs vs' : List Value} (h : Redrawn P (.items vs) (.items vs')) :
      Redrawn P (.value (.array vs)) (.value (.array vs'))
  | object {fs fs' : List (Option String × Value)} (h : Redrawn P (.fields fs) (.fields fs')) :
      Redrawn P (.value (.object fs)) (.value (.object fs'))
  | padded {v v' : Value} (h : Redrawn P (.value v) (.value v')) :
      Redrawn P (.padded v) (.padded v')
  | noItems : Redrawn P (.items []) (.items [])
  | item {v v' : Value} {vs vs' : List Value} (h : Redrawn P (.value v) (.value v'))
      (rest : Redrawn P (.items vs) (.items vs')) : Redrawn P (.items (v :: vs)) (.items (v' :: vs'))
  | noFields : Redrawn P (.fields []) (.fields [])
  | field {key key' : Option String} {v v' : Value} {fs fs' : List (Option String × Value)}
      (keys : Option.Rel (RedrawnText P) key key') (h : Redrawn P (.value v) (.value v'))
      (rest : Redrawn P (.fields fs) (.fields fs')) :
      Redrawn P (.fields ((key, v) :: fs)) (.fields ((key', v') :: fs'))

/-- Values that are the same but for the digits of chance. -/
def Value.Redrawn (P : UInt64 → UInt64 → Prop) (v v' : Value) : Prop :=
  Piece.Redrawn P (.value v) (.value v')

/-- A piece that is the same as a value is one. -/
theorem Piece.Redrawn.of_value {piece : Piece} {v : Value} (h : Redrawn P (.value v) piece) :
    ∃ v', piece = .value v' ∧ Redrawn P (.value v) (.value v') := by
  cases h with
  | null => exact ⟨_, rfl, .null⟩
  | bool b => exact ⟨_, rfl, .bool b⟩
  | number literal => exact ⟨_, rfl, .number literal⟩
  | string h => exact ⟨_, rfl, .string h⟩
  | array h => exact ⟨_, rfl, .array h⟩
  | object h => exact ⟨_, rfl, .object h⟩

/-! ### Strings -/

theorem UnitDigits.plain {unit : Nat} {digits : List Char} (h : UnitDigits unit digits) :
    '_' ∉ digits := by
  intro member
  have lower : '_' ∈ Text.hexDigits 4 unit := by
    rw [← h]
    exact List.mem_map.2 ⟨'_', member, by decide⟩
  have digit : ∀ k : Fin 16, '_' ≠ Text.hexDigit k := by decide +kernel
  obtain ⟨k, same⟩ := Text.exists_of_mem_hexDigits lower
  exact digit k same

theorem plain_of_letters {l c : Char} (known : (l, c) ∈ letters) : l ≠ '_' := by
  rintro rfl
  simp [letters] at known

/-- What may be in names needs no escape. -/
theorem printed_of_mem_chanceSuffix {draw : UInt64} {c : Char}
    (member : c ∈ (chanceSuffix draw).toList) : c ≠ '"' ∧ c ≠ '\\' ∧ 0x20 ≤ c.toNat := by
  have named := isIdentifierRest_of_mem_chanceSuffix member
  refine ⟨?_, ?_, ?_⟩
  · rintro rfl
    exact absurd named (by decide)
  · rintro rfl
    exact absurd named (by decide)
  · exact Nat.le_trans (by decide) (toNat_of_isIdentifierRest named).1

theorem spells_plain {plain text spelling : List Char}
    (all : ∀ c ∈ plain, c ≠ '"' ∧ c ≠ '\\' ∧ 0x20 ≤ c.toNat) (rest : Spells text spelling) :
    Spells (plain ++ text) (plain ++ spelling) := by
  induction plain with
  | nil => exact rest
  | cons c plain ih =>
    obtain ⟨unquote, unescape, printed⟩ := all c (by simp)
    exact .plain unquote unescape printed (ih fun c member => all c (by simp [member]))

theorem Spells.of_plain {plain text spelling : List Char} (all : '\\' ∉ plain)
    (h : Spells text (plain ++ spelling)) :
    ∃ rest, text = plain ++ rest ∧ Spells rest spelling := by
  induction plain generalizing text with
  | nil => exact ⟨text, rfl, h⟩
  | cons c plain ih =>
    rw [List.mem_cons, not_or] at all
    generalize same : c :: plain ++ spelling = whole at h
    cases h with
    | nil => cases same
    | plain _ _ _ more =>
      obtain ⟨rfl, rfl⟩ := List.cons.inj same
      obtain ⟨rest, rfl, spelt⟩ := ih all.2 more
      exact ⟨rest, rfl, spelt⟩
    | letter => exact absurd (List.cons.inj same).1.symm all.1
    | unit => exact absurd (List.cons.inj same).1.symm all.1
    | pair => exact absurd (List.cons.inj same).1.symm all.1

/-- A spelling with other digits is a spelling. -/
theorem Spells.redrawn {text spelling spelling' : List Char} (h : Spells text spelling)
    (other : Redrawn P spelling spelling') :
    ∃ text', Spells text' spelling' ∧ Redrawn P text text' := by
  induction size : spelling.length using Nat.strong_induction_on
    generalizing text spelling spelling' with
  | _ size ih =>
    cases other with
    | nil =>
      cases h
      exact ⟨[], .nil, .nil⟩
    | @digits draw draw' behind behind' drawn rest =>
      have free : '\\' ∉ (chanceSuffix draw).toList := fun member =>
        (printed_of_mem_chanceSuffix member).2.1 rfl
      obtain ⟨more, begins, spelt⟩ := h.of_plain free
      rw [List.length_append, length_chanceSuffix] at size
      obtain ⟨text', spelt', same⟩ := ih behind.length (by omega) spelt rest rfl
      rw [begins]
      exact ⟨_, spells_plain (fun _ => printed_of_mem_chanceSuffix) spelt', .digits drawn same⟩
    | @char c behind behind' rest =>
      rw [List.length_cons] at size
      generalize written : c :: behind = whole at h
      cases h with
      | nil => cases written
      | plain unquote unescape printed more =>
        obtain ⟨rfl, rfl⟩ := List.cons.inj written
        obtain ⟨text', spelt', same⟩ := ih behind.length (by omega) more rest rfl
        exact ⟨_, .plain unquote unescape printed spelt', .char _ same⟩
      | @letter l _ _ spelling known more =>
        obtain ⟨rfl, rfl⟩ := List.cons.inj written
        obtain ⟨_, rfl, after⟩ := rest.of_cons (plain_of_letters known)
        rw [List.length_cons] at size
        obtain ⟨text', spelt', same⟩ := ih spelling.length (by omega) more after rfl
        exact ⟨_, .letter known spelt', .char _ same⟩
      | @unit _ digits _ spelling narrow units more =>
        have plain : '_' ∉ 'u' :: digits := by simp [units.plain]
        have apart : behind = 'u' :: digits ++ spelling := (List.cons.inj written).2
        rw [apart] at rest size
        obtain ⟨_, rfl, after⟩ := rest.of_append plain
        rw [List.length_append] at size
        obtain rfl : c = '\\' := (List.cons.inj written).1
        obtain ⟨text', spelt', same⟩ := ih spelling.length (by omega) more after rfl
        exact ⟨_, .unit narrow units spelt', .char _ same⟩
      | @pair _ high low _ spelling wide first second more =>
        have plain : '_' ∉ 'u' :: high ++ '\\' :: 'u' :: low := by simp [first.plain, second.plain]
        have apart : behind = 'u' :: high ++ '\\' :: 'u' :: low ++ spelling := by
          simpa using (List.cons.inj written).2
        rw [apart] at rest size
        obtain ⟨_, rfl, after⟩ := rest.of_append plain
        rw [List.length_append] at size
        obtain rfl : c = '\\' := (List.cons.inj written).1
        obtain ⟨text', spelt', same⟩ := ih spelling.length (by omega) more after rfl
        refine ⟨_, ?_, .char _ same⟩
        simpa using Spells.pair wide first second spelt'

theorem quotable_plain {plain spelling : List Char}
    (all : ∀ c ∈ plain, c ≠ '"' ∧ c ≠ '\\' ∧ 0x20 ≤ c.toNat) (rest : Quotable spelling) :
    Quotable (plain ++ spelling) := by
  induction plain with
  | nil => exact rest
  | cons c plain ih =>
    obtain ⟨unquote, unescape, printed⟩ := all c (by simp)
    exact .plain unquote unescape printed (ih fun c member => all c (by simp [member]))

theorem Quotable.of_plain {plain spelling : List Char} (all : '\\' ∉ plain)
    (h : Quotable (plain ++ spelling)) : Quotable spelling := by
  induction plain with
  | nil => exact h
  | cons c plain ih =>
    rw [List.mem_cons, not_or] at all
    generalize same : c :: plain ++ spelling = whole at h
    cases h with
    | nil => cases same
    | plain _ _ _ more =>
      obtain ⟨rfl, rfl⟩ := List.cons.inj same
      exact ih all.2 more
    | letter => exact absurd (List.cons.inj same).1.symm all.1
    | unit => exact absurd (List.cons.inj same).1.symm all.1

/-- What may stand between quotes may with other digits. -/
theorem Quotable.redrawn {spelling spelling' : List Char} (h : Quotable spelling)
    (other : Redrawn P spelling spelling') : Quotable spelling' := by
  induction h generalizing spelling' with
  | nil =>
    rw [other.nil_left]
    exact .nil
  | letter known rest ih =>
    obtain ⟨_, rfl, tail⟩ := other.of_cons (by decide)
    obtain ⟨_, rfl, behind⟩ := tail.of_cons (plain_of_letters known)
    exact .letter known (ih behind)
  | @unit _ digits _ narrow units rest ih =>
    have plain : '_' ∉ '\\' :: 'u' :: digits := by simp [units.plain]
    obtain ⟨_, rfl, behind⟩ := other.of_append plain
    exact .unit narrow units (ih behind)
  | @plain c spelling unquote unescape printed rest ih =>
    generalize written : c :: spelling = whole at other
    cases other with
    | nil => cases written
    | char c tail =>
      obtain ⟨rfl, rfl⟩ := List.cons.inj written
      exact .plain unquote unescape printed (ih tail)
    | @digits draw draw' _ behind drawn tail =>
      -- The digits stay as they are first, and are then taken for the others.
      rw [toList_chanceSuffix, List.cons_append] at written
      have free : '\\' ∉ Text.hexDigits 16 draw.toNat := fun member =>
        absurd (isIdentifierRest_of_mem_hexDigits member) (by decide)
      generalize Text.hexDigits 16 draw.toNat = row at written free
      obtain ⟨rfl, rfl⟩ := List.cons.inj written
      have kept : Quotable (row ++ behind) := ih ((Redrawn.refl _).append tail)
      exact quotable_plain (fun _ => printed_of_mem_chanceSuffix) (kept.of_plain free)

/-- What stands between quotes does with other digits. -/
theorem Quotes.redrawn {text : Option String} {spelling spelling' : List Char}
    (h : Quotes text spelling) (other : Redrawn P spelling spelling') :
    ∃ text', Quotes text' spelling' ∧ Option.Rel (RedrawnText P) text text' := by
  cases h with
  | text spelt =>
    obtain ⟨text', spelt', same⟩ := spelt.redrawn other
    refine ⟨some (String.ofList text'), .text (by rwa [String.toList_ofList]), .some ?_⟩
    rwa [RedrawnText, String.toList_ofList]
  | textless quotable silent =>
    refine ⟨none, .textless (quotable.redrawn other) fun text' spelt => ?_, .none⟩
    obtain ⟨text, spelt', -⟩ := spelt.redrawn other.symm
    exact silent text spelt'

/-! ### Wordings -/

theorem Blanks.foreign {blanks : List Char} (h : Blanks blanks) :
    ∀ c ∈ blanks, isIdentifierRest c = false := by
  intro c member
  have blank := h c member
  simp only [isSpace, Bool.or_eq_true, beq_iff_eq] at blank
  rcases blank with ((rfl | rfl) | rfl) | rfl <;> decide

theorem Blanks.plain {blanks : List Char} (h : Blanks blanks) : '_' ∉ blanks :=
  fun member => absurd (h.foreign '_' member) (by decide)

/-- **A wording with other digits is a wording.** -/
theorem Wording.redrawn {piece : Piece} {text text' : List Char} (h : Wording piece text)
    (other : Redrawn P text text') : ∃ piece', Wording piece' text' ∧ piece.Redrawn P piece' := by
  induction h generalizing text' with
  | null =>
    rw [← other.eq_of_plain (by decide)]
    exact ⟨_, .null, .null⟩
  | true =>
    rw [← other.eq_of_plain (by decide)]
    exact ⟨_, .true, .bool Bool.true⟩
  | false =>
    rw [← other.eq_of_plain (by decide)]
    exact ⟨_, .false, .bool Bool.false⟩
  | number h =>
    rw [← other.eq_of_plain (h.not_mem (by decide) (by decide))]
    exact ⟨_, .number h, .number _⟩
  | string quotes =>
    obtain ⟨_, rfl, behind⟩ := other.of_cons (by decide)
    obtain ⟨_, _, rfl, inside, after⟩ := behind.of_append_cons (by decide)
    rw [after.nil_left]
    obtain ⟨text', quotes', same⟩ := quotes.redrawn inside
    exact ⟨_, .string quotes', .string same⟩
  | noItems blanks =>
    rw [← other.eq_of_plain (by simp [blanks.plain])]
    exact ⟨_, .noItems blanks, .array .noItems⟩
  | noFields blanks =>
    rw [← other.eq_of_plain (by simp [blanks.plain])]
    exact ⟨_, .noFields blanks, .object .noFields⟩
  | array _ ih =>
    obtain ⟨_, rfl, behind⟩ := other.of_cons (by decide)
    obtain ⟨_, _, rfl, inside, after⟩ := behind.of_append_cons (by decide)
    rw [after.nil_left]
    obtain ⟨_, worded, same⟩ := ih inside
    cases same with
    | noItems => exact ⟨_, .array worded, .array .noItems⟩
    | item h rest => exact ⟨_, .array worded, .array (.item h rest)⟩
  | object _ ih =>
    obtain ⟨_, rfl, behind⟩ := other.of_cons (by decide)
    obtain ⟨_, _, rfl, inside, after⟩ := behind.of_append_cons (by decide)
    rw [after.nil_left]
    obtain ⟨_, worded, same⟩ := ih inside
    cases same with
    | noFields => exact ⟨_, .object worded, .object .noFields⟩
    | field keys h rest => exact ⟨_, .object worded, .object (.field keys h rest)⟩
  | padded left right _ ih =>
    obtain ⟨_, rfl, behind⟩ := other.of_append left.plain
    obtain ⟨_, rfl, inside⟩ := behind.of_append_foreign right.foreign
    obtain ⟨_, worded, same⟩ := ih inside
    obtain ⟨v', rfl, values⟩ := same.of_value
    exact ⟨_, .padded left right worded, .padded values⟩
  | item _ ih =>
    obtain ⟨_, worded, same⟩ := ih other
    cases same with
    | padded h => exact ⟨_, .item worded, .item h .noItems⟩
  | items _ _ ih ih' =>
    obtain ⟨_, _, rfl, before, after⟩ := other.of_append_cons (by decide)
    obtain ⟨_, worded, same⟩ := ih before
    obtain ⟨_, worded', same'⟩ := ih' after
    cases same with
    | padded h =>
      cases same' with
      | noItems => exact ⟨_, .items worded worded', .item h .noItems⟩
      | item h' rest => exact ⟨_, .items worded worded', .item h (.item h' rest)⟩
  | field left quoted right _ ih =>
    obtain ⟨_, rfl, whole⟩ := other.of_append left.plain
    obtain ⟨_, rfl, opened⟩ := whole.of_cons (by decide)
    obtain ⟨_, _, rfl, inside, closed⟩ := opened.of_append_cons (c := '"') (by decide)
    obtain ⟨_, rfl, colon⟩ := closed.of_append right.plain
    obtain ⟨_, rfl, after⟩ := colon.of_cons (by decide)
    obtain ⟨key', quoted', keys⟩ := quoted.redrawn inside
    obtain ⟨_, worded, same⟩ := ih after
    cases same with
    | padded h => exact ⟨_, .field left quoted' right worded, .field keys h .noFields⟩
  | fields _ _ ih ih' =>
    obtain ⟨_, _, rfl, before, after⟩ := other.of_append_cons (by decide)
    obtain ⟨_, worded, same⟩ := ih before
    obtain ⟨_, worded', same'⟩ := ih' after
    cases same with
    | field keys h rest =>
      cases rest with
      | noFields =>
        cases same' with
        | noFields => exact ⟨_, .fields worded worded', .field keys h .noFields⟩
        | field keys' h' rest' =>
          exact ⟨_, .fields worded worded', .field keys h (.field keys' h' rest')⟩

/-- **Texts that are the same but for the digits** are read as values that are the same but for
them, or both as none. -/
theorem read?_redrawn {text text' : List Char} (h : Redrawn P text text') :
    Option.Rel (Value.Redrawn P) (read? text) (read? text') := by
  have other {P : UInt64 → UInt64 → Prop} {text text' : List Char} (h : Redrawn P text text')
      {v : Value} (read : read? text = some v) : ∃ v', read? text' = some v' ∧ v.Redrawn P v' := by
    obtain ⟨_, worded, same⟩ := (read?_eq_some_iff.1 read).redrawn h
    cases same with
    | padded same => exact ⟨_, read?_eq_some_iff.2 worded, same⟩
  refine option_rel_of_forall (fun _ read => other h read) fun _ read' => ?_
  obtain ⟨_, read, -⟩ := other h.symm read'
  exact Option.isSome_of_eq_some read

end Plotter.Json
