import Mathlib
import Plotter.Proofs.Json.Printing
import Plotter.Sampling.Sample

/-!
# Finite doubles are written as JSON numbers

The digits that are searched for are never zero, so what is laid out of them has no needless zero at
its front, with a point or an exponent as with neither. That they stand for the double, or are the
fewest that do, is not said here.

## What is proved

* `Positive.shortest_pos`: the digits of a positive double are not zero.
* `isNumeral_render`: a finite double is written as a number.
* `Json.Document.sound_ofFloat`: in a document, every double is a number or null.
-/

namespace Plotter.Decimal

open Json (Digits Whole Fraction Exponent IsNumber digits_toDigits head?_toDigits whole_toDigits)

/-! ### The digits are not zero -/

namespace Positive

variable {x : Positive} {tie : Tie} {place : Int} {c : Nat}

theorem lowerEnd_pos (h : 0 < x.significand) : 0 < x.lowerEnd := by
  unfold lowerEnd
  split <;> omega

theorem quarterScale_pos (x : Positive) (place : Int) : 0 < x.quarterScale place :=
  Nat.mul_pos (Nat.pow_pos (by decide)) (Nat.pow_pos (by decide))

/-- Zero does not read back as a positive double. -/
theorem pos_of_readsBack (h : 0 < x.significand) (back : x.readsBack place c = true) : 0 < c := by
  have low : 0 < x.lowerEnd * x.quarterScale place :=
    Nat.mul_pos (lowerEnd_pos h) (quarterScale_pos x place)
  rcases Nat.eq_zero_or_pos c with rfl | positive
  · have off : ¬x.lowerEnd * x.quarterScale place ≤ 0 := Nat.not_le.2 low
    simp [readsBack, off] at back
  · exact positive

/-- What is taken on a grid reads back. -/
theorem readsBack_of_onGrid? (taken : x.onGrid? tie place = some c) :
    x.readsBack place c = true := by
  unfold onGrid? at taken
  dsimp only at taken
  split at taken
  · cases taken
  · cases taken
    assumption
  · cases taken
    assumption
  · rename_i below above
    have either (p : Prop) [Decidable p] {a b : Nat} (chosen : (if p then a else b) = c)
        (first : x.readsBack place a = true) (second : x.readsBack place b = true) :
        x.readsBack place c = true := by
      split at chosen <;> (subst chosen; assumption)
    split at taken
    · cases taken
      exact below
    · split at taken
      · cases taken
        exact above
      · cases tie with
        | up =>
          cases taken
          exact above
        | even => exact either _ (Option.some.inj taken) below above

theorem pos_of_search (h : 0 < x.significand) {count : Nat} {found : Nat × Int}
    (searched : x.search tie count place = some found) : 0 < found.1 := by
  induction count generalizing place with
  | zero => cases searched
  | succ count ih =>
    rw [search] at searched
    cases taken : x.onGrid? tie place with
    | some c =>
      rw [taken] at searched
      cases searched
      exact pos_of_readsBack h (readsBack_of_onGrid? taken)
    | none =>
      rw [taken] at searched
      exact ih searched

theorem exact_pos (h : 0 < x.significand) : 0 < x.exact.1 := by
  unfold exact
  split
  · exact Nat.mul_pos h (Nat.pow_pos (by decide))
  · exact Nat.mul_pos h (Nat.pow_pos (by decide))

/-- **The digits of a positive double are not zero.** -/
theorem shortest_pos (tie : Tie) (h : 0 < x.significand) : 0 < (x.shortest tie).1 := by
  unfold shortest
  cases searched : x.search tie 20 x.topPlace with
  | some found => exact pos_of_search h searched
  | none => exact exact_pos h

end Positive

/-! ### Layouts -/

/-- A number without a sign. -/
def Unsigned (text : List Char) : Prop :=
  ∃ whole fraction exponent, Whole whole ∧ Fraction fraction ∧ Exponent exponent ∧
    text = whole ++ (fraction ++ exponent)

/-- What has digits at its front that are those of a positive number has no needless zero there. -/
theorem whole_take {n : Nat} (positive : 0 < n) {count : Nat} (wanted : 0 < count) :
    Whole ((digits n).take count) := by
  have written := digits_toDigits n
  refine .inr ⟨⟨?_, fun c member => written.2 c (List.mem_of_mem_take member)⟩, ?_⟩
  · simp [digits, List.take_eq_nil_iff, written.1, Nat.pos_iff_ne_zero.1 wanted]
  · rw [List.head?_take, if_neg (Nat.pos_iff_ne_zero.1 wanted)]
    exact head?_toDigits positive

theorem digits_drop {n count : Nat} (h : count < (digits n).length) :
    Digits ((digits n).drop count) :=
  ⟨by simpa [List.drop_eq_nil_iff] using h,
    fun c member => (digits_toDigits n).2 c (List.mem_of_mem_drop member)⟩

theorem digits_ne_nil (n : Nat) : digits n ≠ [] := (digits_toDigits n).1

theorem length_digits_pos (n : Nat) : 0 < (digits n).length :=
  List.length_pos_iff.2 (digits_ne_nil n)

/-- Digits with a point among them are a number. -/
theorem unsigned_withPoint {n places : Nat} (positive : 0 < n) (wanted : 0 < places) :
    Unsigned (withPoint (digits n) places) := by
  have written := digits_toDigits n
  by_cases short : (digits n).length ≤ places
  · -- Zeros are put at the front, one of them before the point.
    have zeros : places + 1 - (digits n).length = places - (digits n).length + 1 := by omega
    refine ⟨['0'], '.' :: (List.replicate (places - (digits n).length) '0' ++ digits n), [],
      .inl rfl, .inr ⟨_, ⟨?_, ?_⟩, rfl⟩, .inl rfl, ?_⟩
    · simp [digits_ne_nil]
    · intro c member
      rcases List.mem_append.1 member with zero | digit
      · rw [List.eq_of_mem_replicate zero]
        rfl
      · exact written.2 c digit
    · have whole : places - (digits n).length + (digits n).length + 1 - places = 1 := by omega
      simp [withPoint, zeros, List.replicate_succ, whole]
  · have filled : places + 1 - (digits n).length = 0 := by omega
    refine ⟨(digits n).take ((digits n).length - places),
      '.' :: (digits n).drop ((digits n).length - places), [], whole_take positive (by omega),
      .inr ⟨_, digits_drop (by omega), rfl⟩, .inl rfl, ?_⟩
    simp [withPoint, filled]

/-- What a whole number has after its last digit. -/
theorem wholeEnd_json : Style.json.wholeEnd.toList = ['.', '0'] := rfl

theorem point_zero : Fraction ['.', '0'] := 
  .inr ⟨['0'], by simpa [digits] using digits_toDigits 0, rfl⟩

theorem unsigned_positional {n : Nat} (positive : 0 < n) (place : Int) :
    Unsigned (positional Style.json.wholeEnd n place) := by
  unfold positional
  split
  · refine ⟨digits n ++ List.replicate place.toNat '0', ['.', '0'], [], .inr ⟨⟨?_, ?_⟩, ?_⟩,
      point_zero, .inl rfl, by rw [List.append_nil, wholeEnd_json]⟩
    · simp [digits_ne_nil]
    · intro c member
      rcases List.mem_append.1 member with digit | zero
      · exact (digits_toDigits n).2 c digit
      · rw [List.eq_of_mem_replicate zero]
        rfl
    · rw [List.head?_append_of_ne_nil _ (digits_ne_nil n)]
      exact head?_toDigits positive
  · exact unsigned_withPoint positive (by omega)

theorem unsigned_scientific {n : Nat} (positive : 0 < n) (place : Int) :
    Unsigned (scientific n place) := by
  have tail (e : Int) : Exponent ('e' :: (if e < 0 then '-' else '+') :: digits e.natAbs) :=
    .inr ⟨'e', [if e < 0 then '-' else '+'], digits e.natAbs, .inl rfl,
      by split <;> simp, digits_toDigits _, rfl⟩
  unfold scientific
  dsimp only
  split
  · exact ⟨digits n, [], _, whole_toDigits n, .inl rfl, tail _, rfl⟩
  · rename_i several
    have more : 1 < (digits n).length := by
      have := length_digits_pos n
      omega
    exact ⟨(digits n).take 1, '.' :: (digits n).drop 1, _, whole_take positive (by decide),
      .inr ⟨_, digits_drop more, rfl⟩, tail _, List.append_assoc ..⟩

/-! ### Doubles -/

/-- A number, perhaps with a sign, is a number of JSON. -/
theorem Unsigned.isNumber {text : List Char} (h : Unsigned text) (negative : Bool) :
    ∃ sign whole fraction exponent, IsNumber sign whole fraction exponent ∧
      (if negative then '-' :: text else text) = sign ++ (whole ++ (fraction ++ exponent)) := by
  obtain ⟨whole, fraction, exponent, atFront, afterPoint, atEnd, rfl⟩ := h
  cases negative
  · exact ⟨[], whole, fraction, exponent, ⟨.inl rfl, atFront, afterPoint, atEnd⟩, rfl⟩
  · exact ⟨['-'], whole, fraction, exponent, ⟨.inr rfl, atFront, afterPoint, atEnd⟩, rfl⟩

/-- **A finite double is written as a number.** -/
theorem sound_render {x : Float} {negative : Bool} {significand : Nat} {exponent : Int}
    (finite : Binary64.ofFloat x = .finite negative significand exponent) :
    (Json.Document.number (Style.json.render x)).Sound := by
  have zero : Unsigned (positional Style.json.wholeEnd 0 0) :=
    ⟨['0'], ['.', '0'], [], .inl rfl, point_zero, .inl rfl, by decide⟩
  have written (m : Nat) (e : Int) : Unsigned
      (if m = 0 then positional Style.json.wholeEnd 0 0
      else
        let shortest := Positive.shortest Style.json.tie ⟨m, e⟩
        let first := shortest.2 + (digits shortest.1).length - 1
        if -5 ≤ first ∧ first < 16 then positional Style.json.wholeEnd shortest.1 shortest.2
        else scientific shortest.1 shortest.2) := by
    split
    · exact zero
    · rename_i positive
      have shortest := Positive.shortest_pos Style.json.tie (x := ⟨m, e⟩) (by simpa [Nat.pos_iff_ne_zero])
      dsimp only
      split
      · exact unsigned_positional shortest _
      · exact unsigned_scientific shortest _
  obtain ⟨sign, whole, fraction, exponent, number, same⟩ :=
    (written significand exponent).isNumber negative
  refine ⟨sign, whole, fraction, exponent, number, ?_⟩
  rw [← same]
  simp only [Style.render, finite, String.toList_ofList]
  rfl

end Plotter.Decimal

namespace Plotter.Json.Document

open Decimal (Binary64)

/-- In a document, every double is a number or null. -/
theorem sound_ofFloat (x : Float) : (ofFloat x).Sound := by
  unfold ofFloat
  split
  · rename_i finite
    exact Decimal.sound_render finite
  · exact trivial

end Plotter.Json.Document
