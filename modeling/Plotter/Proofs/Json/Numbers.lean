import Mathlib
import Plotter.Proofs.Json.Layout

/-!
# Numbers are read as their literals

A number has no end of its own: the reader takes characters as long as they go on with its literal.
What it has taken so far is the beginning of a literal that is as far as the reader takes it to be
(`NumberPart.Written`).

## What is proved

* `NumberPart.after?_tail`, `State.run?_whole`: each literal of the grammar is taken.
* `NumberPart.Written.isNumber`: what is taken to be complete is a literal of the grammar.
-/

namespace Plotter.Json

/-! ### Numbers -/

/-- A character that is no digit. -/
theorem ne_of_isDigit {c other : Char} (h : c.isDigit = true) (not : other.isDigit = false) :
    c ≠ other := by
  rintro rfl
  rw [h] at not
  simp at not

namespace NumberPart

/-- The part that a text leads to, if it continues the literal. -/
def after? (part : NumberPart) (text : List Char) : Option NumberPart := text.foldlM next? part

theorem after?_append (part : NumberPart) (a b : List Char) :
    part.after? (a ++ b) = (part.after? a).bind (·.after? b) := List.foldlM_append

/-- Digits lead to a part in which there may be more of them. -/
theorem after?_digits {part part' : NumberPart} {text : List Char} (h : Digits text)
    (first : ∀ c, c.isDigit = true → part.next? c = some part')
    (more : ∀ c, c.isDigit = true → part'.next? c = some part') : part.after? text = some part' := by
  obtain ⟨nonempty, digits⟩ := h
  have loop (text : List Char) (digits : ∀ c ∈ text, c.isDigit = true) :
      part'.after? text = some part' := by
    induction text with
    | nil => rfl
    | cons c text ih =>
      rw [after?, List.foldlM_cons, more c (digits c (by simp))]
      exact ih fun c member => digits c (by simp [member])
  cases text with
  | nil => exact absurd rfl nonempty
  | cons c text =>
    rw [after?, List.foldlM_cons, first c (digits c (by simp))]
    exact loop text fun c member => digits c (by simp [member])

theorem next?_digit {c : Char} (h : c.isDigit = true) :
    whole.next? c = some whole ∧ point.next? c = some fraction ∧
      fraction.next? c = some fraction ∧ exponent.next? c = some exponentDigits ∧
        exponentSign.next? c = some exponentDigits ∧
          exponentDigits.next? c = some exponentDigits := by
  simp [next?, h, ne_of_isDigit h]

/-- What follows the whole part of a number brings its literal to an end. -/
theorem after?_tail {part : NumberPart} {f e : List Char} (begun : part = .zero ∨ part = .whole)
    (hf : Fraction f) (he : Exponent e) :
    ∃ part', part'.complete = true ∧ part.after? (f ++ e) = some part' := by
  obtain ⟨middle, fractional, read⟩ : ∃ middle,
      (middle = .zero ∨ middle = .whole ∨ middle = .fraction) ∧ part.after? f = some middle := by
    rcases hf with rfl | ⟨digits, written, rfl⟩
    · exact ⟨part, by tauto, rfl⟩
    · have dot : part.next? '.' = some .point := by rcases begun with rfl | rfl <;> rfl
      refine ⟨.fraction, by simp, ?_⟩
      rw [after?, List.foldlM_cons, dot]
      exact after?_digits written (fun c h => (next?_digit h).2.1) fun c h => (next?_digit h).2.2.1
  rw [after?_append, read, Option.bind_some]
  rcases he with rfl | ⟨letter, sign, digits, letters, signs, written, rfl⟩
  · exact ⟨middle, by rcases fractional with rfl | rfl | rfl <;> rfl, rfl⟩
  · have begin : middle.next? letter = some .exponent := by
      rcases letters with rfl | rfl <;> rcases fractional with rfl | rfl | rfl <;> rfl
    refine ⟨.exponentDigits, rfl, ?_⟩
    rw [after?, List.foldlM_cons, begin]
    change exponent.after? (sign ++ digits) = _
    have more : ∀ c, c.isDigit = true → exponentDigits.next? c = some .exponentDigits :=
      fun c h => (next?_digit h).2.2.2.2.2
    have signed : exponentSign.after? digits = some .exponentDigits :=
      after?_digits written (fun c h => (next?_digit h).2.2.2.2.1) more
    rcases signs with rfl | rfl | rfl
    · exact after?_digits written (fun c h => (next?_digit h).2.2.2.1) more
    · exact (after?_append ..).trans signed
    · exact (after?_append ..).trans signed

end NumberPart

namespace State

variable {stack : List Frame}

theorem run?_after {part part' : NumberPart} {text : List Char} (h : part.after? text = some part')
    (literal : List Char) :
    run? ⟨stack, .number part literal⟩ text =
      some ⟨stack, .number part' (text.reverse ++ literal)⟩ := by
  induction text generalizing part literal with
  | nil =>
    obtain rfl : part = part' := by simpa [NumberPart.after?] using h
    rfl
  | cons c text ih =>
    rw [NumberPart.after?, List.foldlM_cons] at h
    cases next : part.next? c with
    | none => simp [next] at h
    | some middle =>
      rw [next] at h
      have step : step? ⟨stack, .number part literal⟩ c =
          some ⟨stack, .number middle (c :: literal)⟩ := by simp [step?, inNumber?, next]
      rw [run?_cons, step, Option.bind_some, ih h]
      simp

theorem run?_whole (stack : List Frame) {sign whole : List Char}
    (hs : sign = [] ∨ sign = ['-']) (hw : Whole whole) :
    ∃ part, (part = .zero ∨ part = .whole) ∧
      run? ⟨stack, .between .value⟩ (sign ++ whole) =
        some ⟨stack, .number part (sign ++ whole).reverse⟩ := by
  obtain ⟨c, rest, part, rfl, begun, opened, signed, read⟩ : ∃ c rest part, whole = c :: rest ∧
      (part = .zero ∨ part = .whole) ∧
        step? ⟨stack, .between .value⟩ c = some ⟨stack, .number part [c]⟩ ∧
          NumberPart.sign.next? c = some part ∧ part.after? rest = some part := by
    rcases hw with rfl | ⟨⟨nonempty, digits⟩, nonzero⟩
    · exact ⟨'0', [], .zero, rfl, .inl rfl, rfl, rfl, rfl⟩
    · cases whole with
      | nil => exact absurd rfl nonempty
      | cons c rest =>
        have digit := digits c (by simp)
        have zero : c ≠ '0' := by simpa using nonzero
        have blank : isSpace c = false := by simp [isSpace, ne_of_isDigit digit]
        refine ⟨c, rest, .whole, rfl, .inr rfl, ?_, by simp [NumberPart.next?, zero, digit], ?_⟩
        · rw [step?_of_not_space blank]
          simp [token?, open?, zero, digit, ne_of_isDigit digit]
        · cases rest with
          | nil => rfl
          | cons d rest =>
            refine NumberPart.after?_digits ⟨by simp, fun d member => digits d (by simp [member])⟩
              ?_ ?_ <;> exact fun c h => (NumberPart.next?_digit h).1
  refine ⟨part, begun, ?_⟩
  rcases hs with rfl | rfl
  · rw [List.nil_append, run?_cons, opened, Option.bind_some, run?_after read]
    simp
  · have minus : step? ⟨stack, .between .value⟩ '-' = some ⟨stack, .number .sign ['-']⟩ := rfl
    have first : step? ⟨stack, .number .sign ['-']⟩ c = some ⟨stack, .number part [c, '-']⟩ := by
      simp [step?, inNumber?, signed]
    rw [List.singleton_append, run?_cons, minus, Option.bind_some, run?_cons, first,
      Option.bind_some, run?_after read]
    simp


end State

/-! ### Every number that is read is in the grammar -/

/-- The sign of a number, if it has one. -/
def Sign (text : List Char) : Prop := text = [] ∨ text = ['-']

/-- The sign of an exponent, if it has one. -/
def ExponentSign (text : List Char) : Prop := text = [] ∨ text = ['+'] ∨ text = ['-']

/-- The literals that have got as far as a part. -/
inductive NumberPart.Written : NumberPart → List Char → Prop
  | sign : Written .sign ['-']
  | zero {sign : List Char} (hs : Sign sign) : Written .zero (sign ++ ['0'])
  | whole {sign digits : List Char} (hs : Sign sign) (hd : Digits digits)
      (nonzero : digits.head? ≠ some '0') : Written .whole (sign ++ digits)
  | point {sign whole : List Char} (hs : Sign sign) (hw : Whole whole) :
      Written .point (sign ++ (whole ++ ['.']))
  | fraction {sign whole digits : List Char} (hs : Sign sign) (hw : Whole whole)
      (hd : Digits digits) : Written .fraction (sign ++ (whole ++ '.' :: digits))
  | exponent {sign whole fraction : List Char} {e : Char} (hs : Sign sign) (hw : Whole whole)
      (hf : Fraction fraction) (he : e = 'e' ∨ e = 'E') :
      Written .exponent (sign ++ (whole ++ (fraction ++ [e])))
  | exponentSign {sign whole fraction signs : List Char} {e : Char} (hs : Sign sign)
      (hw : Whole whole) (hf : Fraction fraction) (he : e = 'e' ∨ e = 'E')
      (signed : ExponentSign signs) :
      Written .exponentSign (sign ++ (whole ++ (fraction ++ e :: signs)))
  | exponentDigits {sign whole fraction signs digits : List Char} {e : Char} (hs : Sign sign)
      (hw : Whole whole) (hf : Fraction fraction) (he : e = 'e' ∨ e = 'E')
      (signed : ExponentSign signs) (hd : Digits digits) :
      Written .exponentDigits (sign ++ (whole ++ (fraction ++ e :: (signs ++ digits))))

theorem digits_singleton {c : Char} (h : c.isDigit = true) : Digits [c] :=
  ⟨List.cons_ne_nil _ _, by simpa using h⟩

theorem Digits.concat {text : List Char} {c : Char} (h : Digits text) (digit : c.isDigit = true) :
    Digits (text ++ [c]) :=
  ⟨by simp, fun d member => by
    rcases List.mem_append.1 member with before | last
    · exact h.2 d before
    · obtain rfl := List.mem_singleton.1 last
      exact digit⟩

theorem Digits.head?_concat {text : List Char} (h : Digits text) (c : Char) :
    (text ++ [c]).head? = text.head? := by
  cases text with
  | nil => exact absurd rfl h.1
  | cons d text => rfl

namespace NumberPart

theorem letter_of_beq {c : Char} (h : (c = 'e' || c = 'E') = true) : c = 'e' ∨ c = 'E' := by
  simpa using h

/-- **A character that goes on with a literal** takes it to the part to which the character leads. -/
theorem Written.concat {part part' : NumberPart} {text : List Char} {c : Char}
    (h : part.Written text) (next : part.next? c = some part') : part'.Written (text ++ [c]) := by
  cases h with
  | sign =>
    simp only [next?] at next
    split_ifs at next with zero digit
    · obtain rfl := Option.some.inj next
      subst zero
      exact .zero (.inr rfl)
    · obtain rfl := Option.some.inj next
      exact .whole (.inr rfl) (digits_singleton digit) (by simpa using zero)
  | zero hs =>
    simp only [next?] at next
    split_ifs at next with point letter
    · obtain rfl := Option.some.inj next
      subst point
      simpa using Written.point hs (.inl rfl)
    · obtain rfl := Option.some.inj next
      simpa using Written.exponent hs (.inl rfl) (.inl rfl) (letter_of_beq letter)
  | whole hs hd nonzero =>
    simp only [next?] at next
    split_ifs at next with digit point letter
    · obtain rfl := Option.some.inj next
      simpa using Written.whole hs (hd.concat digit) (by rwa [hd.head?_concat])
    · obtain rfl := Option.some.inj next
      subst point
      simpa using Written.point hs (.inr ⟨hd, nonzero⟩)
    · obtain rfl := Option.some.inj next
      simpa using Written.exponent hs (.inr ⟨hd, nonzero⟩) (.inl rfl) (letter_of_beq letter)
  | point hs hw =>
    simp only [next?] at next
    split_ifs at next with digit
    obtain rfl := Option.some.inj next
    simpa using Written.fraction hs hw (digits_singleton digit)
  | fraction hs hw hd =>
    simp only [next?] at next
    split_ifs at next with digit letter
    · obtain rfl := Option.some.inj next
      simpa using Written.fraction hs hw (hd.concat digit)
    · obtain rfl := Option.some.inj next
      simpa using Written.exponent hs hw (.inr ⟨_, hd, rfl⟩) (letter_of_beq letter)
  | exponent hs hw hf he =>
    simp only [next?] at next
    split_ifs at next with sign digit
    · obtain rfl := Option.some.inj next
      have signed : ExponentSign [c] := .inr (by simpa using sign)
      simpa using Written.exponentSign hs hw hf he signed
    · obtain rfl := Option.some.inj next
      simpa using Written.exponentDigits hs hw hf he (.inl rfl) (digits_singleton digit)
  | exponentSign hs hw hf he signed =>
    simp only [next?] at next
    split_ifs at next with digit
    obtain rfl := Option.some.inj next
    simpa using Written.exponentDigits hs hw hf he signed (digits_singleton digit)
  | exponentDigits hs hw hf he signed hd =>
    simp only [next?] at next
    split_ifs at next with digit
    obtain rfl := Option.some.inj next
    simpa using Written.exponentDigits hs hw hf he signed (hd.concat digit)

/-- **What is taken to be complete is a literal of the grammar.** -/
theorem Written.isNumber {part : NumberPart} {text : List Char} (h : part.Written text)
    (ends : part.complete = true) : ∃ sign whole fraction exponent,
      IsNumber sign whole fraction exponent ∧ text = sign ++ (whole ++ (fraction ++ exponent)) := by
  cases h with
  | zero hs => exact ⟨_, ['0'], [], [], ⟨hs, .inl rfl, .inl rfl, .inl rfl⟩, by simp⟩
  | whole hs hd nonzero =>
    exact ⟨_, _, [], [], ⟨hs, .inr ⟨hd, nonzero⟩, .inl rfl, .inl rfl⟩, by simp⟩
  | fraction hs hw hd => exact ⟨_, _, _, [], ⟨hs, hw, .inr ⟨_, hd, rfl⟩, .inl rfl⟩, by simp⟩
  | exponentDigits hs hw hf he signed hd =>
    exact ⟨_, _, _, _, ⟨hs, hw, hf, .inr ⟨_, _, _, he, signed, hd, rfl⟩⟩, rfl⟩
  | _ => simp [complete] at ends

end NumberPart

end Plotter.Json
