import Mathlib.Algebra.Order.Floor.Semiring
import Mathlib.Data.Rat.Floor
import Mathlib.Tactic.Linarith
import Mathlib.Tactic.NormNum
import Mathlib.Tactic.Ring
import Plotter.Sampling.Domain

/-!
# What a domain covers

A domain is worked out in an arithmetic. The program's is that of the doubles; here it is
worked out in the rational numbers instead, by the same definition, from the exact values of
the bounds, of the step and of the slack. What is left then is what the definition means,
without the roundings that come on top of it.

## What is proved

* `ofBoundsIn_eq_ok_iff`: which bounds are accepted, and with how many points;
* `covers_of_accepted`: the points are the multiples of the step that do not pass the upper
  bound by more than the slack, as a part of the step; all but the last stay within the bound;
* `not_covers_tenths`: the last one need not. From 0.05 to 0.35 in steps of a tenth there are
  four points, and the doubles 0.05 and 0.1 are such that the fourth lies past 0.35. The slack
  is there for this: without it the number that was asked for would be missing.

**Honest scope.** The roundings of the doubles are not bounded here: the values of the
points and the quotient that is rounded down are the exact ones.
-/

namespace Plotter

open Decimal (Binary64)

/-! ### Exact arithmetic -/

/-- The value of a double, if it is a finite one. -/
def Decimal.Binary64.value? : Binary64 → Option ℚ
  | .finite negative significand exponent =>
    some ((if negative then -1 else 1) * significand * 2 ^ exponent)
  | _ => none

/-- A rational number, or nothing where the doubles have an infinity or no number. -/
inductive Exact
  /-- A number. -/
  | number (value : ℚ)
  /-- No number. -/
  | outside
  deriving DecidableEq

namespace Exact

/-- The number that an operation makes of two numbers. -/
def combine (f : ℚ → ℚ → ℚ) : Exact → Exact → Exact
  | number a, number b => number (f a b)
  | _, _ => outside

/-- Whether two values are numbers, and related. -/
def related (r : ℚ → ℚ → Bool) : Exact → Exact → Bool
  | number a, number b => r a b
  | _, _ => false

/-- The exact value of a double. -/
def ofFloat (x : Float) : Exact := (Binary64.ofFloat x).value?.elim outside number

instance : Arithmetic Exact where
  add := combine (· + ·)
  sub := combine (· - ·)
  mul := combine (· * ·)
  div := combine (· / ·)
  ofFloat := ofFloat
  ofInt n := number n
  isFinite
    | number _ => true
    | outside => false
  floor
    | number a => number ⌊a⌋
    | outside => outside
  toNat
    | number a => ⌊a⌋.toNat
    | outside => 0
  less := related fun a b => a < b
  atMost := related fun a b => a ≤ b

variable {a b : ℚ}

@[simp] theorem number_add : number a + number b = number (a + b) := rfl

@[simp] theorem number_sub : number a - number b = number (a - b) := rfl

@[simp] theorem number_mul : number a * number b = number (a * b) := rfl

@[simp] theorem number_div : number a / number b = number (a / b) := rfl

@[simp] theorem ofInt_eq (n : Int) : (Arithmetic.ofInt n : Exact) = number n := rfl

@[simp] theorem isFinite_number : Arithmetic.isFinite (number a) = true := rfl

@[simp] theorem isFinite_outside : Arithmetic.isFinite outside = false := rfl

@[simp] theorem floor_number : Arithmetic.floor (number a) = number ⌊a⌋ := rfl

@[simp] theorem toNat_number : Arithmetic.toNat (number a) = ⌊a⌋.toNat := rfl

@[simp] theorem less_number : Arithmetic.less (number a) (number b) = decide (a < b) := rfl

@[simp] theorem atMost_number : Arithmetic.atMost (number a) (number b) = decide (a ≤ b) := rfl

end Exact

/-- The value of the slack. -/
def SampleDomain.exactSlack : ℚ := 4835703278458517 / 2 ^ 82

open SampleDomain (ofBoundsIn slack exactSlack)

theorem Exact.ofFloat_slack : Arithmetic.ofFloat slack = Exact.number exactSlack := by
  decide +kernel

/-! ### Accepted bounds -/

/-- The values of two bounds the right way round and of a step that leads on. -/
structure Extent where
  first : ℚ
  last : ℚ
  apart : ℚ
  ordered : first ≤ last
  positive : 0 < apart

namespace Extent

/-- The values are those of three doubles. -/
structure Of (e : Extent) (start stop width : Float) : Prop where
  first : Exact.ofFloat start = .number e.first
  last : Exact.ofFloat stop = .number e.last
  apart : Exact.ofFloat width = .number e.apart

/-- As far as a point may lie: past the upper bound by the slack, as a part of the step. -/
def reach (e : Extent) : ℚ := e.last + exactSlack * e.apart

/-- The number of steps that lead on from the first point. -/
def intervals (e : Extent) : ℕ := ⌊(e.last - e.first) / e.apart + exactSlack⌋₊

/-- The point after a number of steps. -/
def point (e : Extent) (i : ℕ) : ℚ := e.first + i * e.apart

/-- The points. -/
def abscissae (e : Extent) : List ℚ := (List.range (e.intervals + 1)).map e.point

/-- The domain between the bounds. -/
def domain (e : Extent) : SampleDomain Exact :=
  ⟨.step (.number e.first) (.number e.apart), e.intervals + 1, Nat.succ_pos _⟩

variable (e : Extent)

theorem quotient_nonneg : 0 ≤ (e.last - e.first) / e.apart + exactSlack := by
  have range : 0 ≤ e.last - e.first := sub_nonneg.2 e.ordered
  have quotient : 0 ≤ (e.last - e.first) / e.apart := div_nonneg range e.positive.le
  have slack : (0 : ℚ) ≤ exactSlack := by norm_num [exactSlack]
  exact add_nonneg quotient slack

/-- A step is taken exactly if the point that it leads to is within reach. -/
theorem le_intervals_iff (i : ℕ) : i ≤ e.intervals ↔ e.point i ≤ e.reach := by
  have scaled : (e.last - e.first) / e.apart + exactSlack =
      (e.last - e.first + exactSlack * e.apart) / e.apart := by
    rw [add_div, mul_div_cancel_right₀ _ e.positive.ne']
  rw [intervals, Nat.le_floor_iff e.quotient_nonneg, scaled, le_div_iff₀ e.positive, point, reach]
  constructor <;> intro h <;> linarith

theorem point_lt_point {i j : ℕ} (h : i < j) : e.point i < e.point j := by
  have steps : (i : ℚ) < j := by exact_mod_cast h
  have further : (i : ℚ) * e.apart < j * e.apart := mul_lt_mul_of_pos_right steps e.positive
  exact add_lt_add_right further _

theorem points_domain : e.domain.points = e.abscissae.map .number := by
  have point : ∀ i, e.domain.point i = .number (e.point i) := fun i => rfl
  simp only [SampleDomain.points, abscissae, List.map_map, domain]
  exact List.map_congr_left fun i _ => point i

/-- The points are the numbers within reach that so many steps lead to. -/
theorem mem_abscissae (x : ℚ) : x ∈ e.abscissae ↔ ∃ i : ℕ, x = e.point i ∧ x ≤ e.reach := by
  simp only [abscissae, List.mem_map, List.mem_range, Nat.lt_succ_iff]
  constructor
  · rintro ⟨i, within, rfl⟩
    exact ⟨i, rfl, (e.le_intervals_iff i).1 within⟩
  · rintro ⟨i, rfl, within⟩
    exact ⟨i, (e.le_intervals_iff i).2 within, rfl⟩

theorem pairwise_abscissae : e.abscissae.Pairwise (· < ·) :=
  List.pairwise_map.2 (List.pairwise_lt_range.imp e.point_lt_point)

@[simp] theorem length_abscissae : e.abscissae.length = e.intervals + 1 := by
  simp [abscissae]

/-- Whether there are too many intervals, as the definition asks. -/
theorem tooMany_iff : (maxPoints : ℚ) ≤ (⌊(e.last - e.first) / e.apart + exactSlack⌋ : ℤ) ↔
    maxPoints ≤ e.intervals := by
  rw [intervals, Nat.le_floor_iff e.quotient_nonneg, ← Int.cast_natCast, Int.cast_le, Int.le_floor,
    Int.cast_natCast]

/-- What the bounds give, once they are found to be numbers, the right way round, and the
step to lead on. -/
theorem ofBoundsIn_eq {start stop width : Float} (of : e.Of start stop width) :
    ofBoundsIn Exact start stop width =
      if maxPoints ≤ e.intervals then .error (.tooMany start stop width) else .ok e.domain := by
  have start_eq : Arithmetic.ofFloat start = Exact.number e.first := of.first
  have stop_eq : Arithmetic.ofFloat stop = Exact.number e.last := of.last
  have width_eq : Arithmetic.ofFloat width = Exact.number e.apart := of.apart
  have positive : ¬ e.apart ≤ 0 := not_le.2 e.positive
  have ordered : ¬ e.last < e.first := not_lt.2 e.ordered
  have size : ⌊(e.last - e.first) / e.apart + exactSlack⌋.toNat = e.intervals := Int.floor_toNat _
  simp only [ofBoundsIn, start_eq, stop_eq, width_eq, Exact.ofFloat_slack]
  simp [positive, ordered, size, e.tooMany_iff, domain]

end Extent

theorem Exact.eq_number_of_isFinite {x : Exact} (h : Arithmetic.isFinite x = true) :
    ∃ a, x = .number a := by
  cases x with
  | number a => exact ⟨a, rfl⟩
  | outside => cases h

/-- The bounds that are accepted, and the domain between them. -/
theorem ofBoundsIn_eq_ok_iff {start stop width : Float} {d : SampleDomain Exact} :
    ofBoundsIn Exact start stop width = .ok d ↔
      ∃ e : Extent, e.Of start stop width ∧ e.intervals < maxPoints ∧ d = e.domain := by
  constructor
  · intro accepted
    obtain ⟨e, of⟩ : ∃ e : Extent, e.Of start stop width := by
      unfold ofBoundsIn at accepted
      dsimp only at accepted
      split at accepted
      · cases accepted
      · rename_i step
        split at accepted
        · cases accepted
        · rename_i range
          simp only [Bool.not_eq_true', Bool.not_eq_false, Bool.and_eq_true, Bool.or_eq_true,
            not_or] at step range
          obtain ⟨apart, width_eq⟩ := Exact.eq_number_of_isFinite step.1
          obtain ⟨first, start_eq⟩ := Exact.eq_number_of_isFinite range.1.1
          obtain ⟨last, stop_eq⟩ := Exact.eq_number_of_isFinite range.1.2
          rw [width_eq] at step
          rw [start_eq, stop_eq] at range
          refine ⟨⟨first, last, apart, ?_, ?_⟩, start_eq, stop_eq, width_eq⟩
          · simpa using range.2
          · simpa using step.2
    rw [e.ofBoundsIn_eq of] at accepted
    split at accepted
    · cases accepted
    · rename_i few
      exact ⟨e, of, not_le.1 few, (Except.ok.inj accepted).symm⟩
  · rintro ⟨e, of, few, rfl⟩
    rw [e.ofBoundsIn_eq of, if_neg (not_le.2 few)]

/-! ### Coverage -/

/-- A domain's points are the numbers up to a bound that steps lead to from the first, in
increasing order. -/
structure SampleDomain.Covers (d : SampleDomain Exact) (first bound apart : ℚ) (xs : List ℚ) :
    Prop where
  points : d.points = xs.map .number
  exact : ∀ x, x ∈ xs ↔ ∃ i : ℕ, x = first + i * apart ∧ x ≤ bound
  increasing : xs.Pairwise (· < ·)
  nonempty : 1 ≤ xs.length
  few : xs.length ≤ maxPoints
  starts : xs.head? = some first
  within : ∀ x ∈ xs, x ≤ bound
  stops : bound < first + xs.length * apart

/-- The domain between accepted bounds covers all that is within reach. -/
theorem Extent.covers (e : Extent) (few : e.intervals < maxPoints) :
    e.domain.Covers e.first e.reach e.apart e.abscissae where
  points := e.points_domain
  exact := e.mem_abscissae
  increasing := e.pairwise_abscissae
  nonempty := by simp
  few := by
    rw [e.length_abscissae]
    exact few
  starts := by simp [Extent.abscissae, Extent.point, List.range_succ_eq_map]
  within x mem := by
    obtain ⟨i, rfl, within⟩ := (e.mem_abscissae x).1 mem
    exact within
  stops := by
    have past : ¬ e.point (e.intervals + 1) ≤ e.reach := fun within =>
      absurd ((e.le_intervals_iff _).2 within) (Nat.not_succ_le_self _)
    simpa [Extent.point] using past

/-- A point that another one follows does not pass the upper bound. -/
theorem Extent.le_last_of_mem_dropLast (e : Extent) {x : ℚ} (mem : x ∈ e.abscissae.dropLast) :
    x ≤ e.last := by
  have earlier : e.abscissae.dropLast = (List.range e.intervals).map e.point := by
    simp [Extent.abscissae, List.range_succ]
  rw [earlier] at mem
  obtain ⟨i, before, rfl⟩ := List.mem_map.1 mem
  have next : e.point (i + 1) ≤ e.reach := (e.le_intervals_iff _).1 (List.mem_range.1 before)
  have slack : exactSlack * e.apart ≤ 1 * e.apart :=
    mul_le_mul_of_nonneg_right (by norm_num [exactSlack]) e.positive.le
  have step : e.point (i + 1) = e.point i + e.apart := by
    simp only [Extent.point]; push_cast; ring
  rw [step, Extent.reach] at next
  linarith

/-- **What a domain covers.** The points between accepted bounds are exactly the numbers
that whole steps lead to from the lower bound and that pass the upper one by no more than
the slack, as a part of the step; they come in increasing order, at least one and no more
than there may be, the first is the lower bound, and one more step would lead past the
bound and the slack. Every point but the last stays within the bound itself. -/
theorem covers_of_accepted {start stop width : Float} {d : SampleDomain Exact}
    (accepted : ofBoundsIn Exact start stop width = .ok d) :
    ∃ (first last apart slack : ℚ) (xs : List ℚ),
      Exact.ofFloat start = .number first ∧ Exact.ofFloat stop = .number last ∧
        Exact.ofFloat width = .number apart ∧
        Exact.ofFloat SampleDomain.slack = .number slack ∧
        d.Covers first (last + slack * apart) apart xs ∧ ∀ x ∈ xs.dropLast, x ≤ last := by
  obtain ⟨e, of, few, rfl⟩ := ofBoundsIn_eq_ok_iff.1 accepted
  exact ⟨e.first, e.last, e.apart, exactSlack, e.abscissae, of.first, of.last, of.apart,
    Exact.ofFloat_slack, e.covers few, fun x mem => e.le_last_of_mem_dropLast mem⟩

/-! ### Tenths -/

/-- From 0.05 to 0.35 in steps of a tenth, as the doubles have it: 0.05 is a little above a
twentieth, and 0.35 a little below seven of them. -/
def Extent.tenths : Extent where
  first := 3602879701896397 / 2 ^ 56
  last := 6305039478318694 / 2 ^ 54
  apart := 3602879701896397 / 2 ^ 55
  ordered := by norm_num
  positive := by norm_num

theorem Extent.of_tenths : Extent.tenths.Of 0.05 0.35 0.1 where
  first := by decide +kernel
  last := by decide +kernel
  apart := by decide +kernel

theorem Extent.intervals_tenths : Extent.tenths.intervals = 3 := by
  have upTo : 3 ≤ Extent.tenths.intervals :=
    (Extent.le_intervals_iff _ 3).2 (by norm_num [Extent.point, Extent.reach, tenths, exactSlack])
  have notMore : ¬ 4 ≤ Extent.tenths.intervals := fun more =>
    absurd ((Extent.le_intervals_iff _ 4).1 more)
      (by norm_num [Extent.point, Extent.reach, tenths, exactSlack])
  omega

theorem Extent.accepted_tenths : ofBoundsIn Exact 0.05 0.35 0.1 = .ok Extent.tenths.domain :=
  ofBoundsIn_eq_ok_iff.2
    ⟨Extent.tenths, Extent.of_tenths, by rw [Extent.intervals_tenths]; decide, rfl⟩

/-- The points a tenth apart, as far as the slack lets them come. -/
theorem covers_tenths :
    ∃ (first last apart slack : ℚ) (xs : List ℚ),
      Exact.ofFloat 0.05 = .number first ∧ Exact.ofFloat 0.35 = .number last ∧
        Exact.ofFloat 0.1 = .number apart ∧ Exact.ofFloat SampleDomain.slack = .number slack ∧
        Extent.tenths.domain.Covers first (last + slack * apart) apart xs ∧
        ∀ x ∈ xs.dropLast, x ≤ last :=
  covers_of_accepted Extent.accepted_tenths

/-- A domain may pass its upper bound: of the four points from 0.05 to 0.35 in steps of a
tenth, the last one does. -/
theorem not_covers_tenths :
    ∃ (d : SampleDomain Exact) (first last apart : ℚ),
      ofBoundsIn Exact 0.05 0.35 0.1 = .ok d ∧ d.size = 4 ∧
        Exact.ofFloat 0.05 = .number first ∧ Exact.ofFloat 0.35 = .number last ∧
        Exact.ofFloat 0.1 = .number apart ∧
        (∃ x, .number x ∈ d.points ∧ last < x) ∧ ¬ ∃ xs, d.Covers first last apart xs := by
  have past : ∃ x, Exact.number x ∈ Extent.tenths.domain.points ∧ Extent.tenths.last < x := by
    refine ⟨Extent.tenths.point 3, ?_, by norm_num [Extent.point, Extent.tenths]⟩
    rw [Extent.points_domain, Extent.abscissae, Extent.intervals_tenths]
    exact List.mem_map_of_mem (List.mem_map_of_mem (by decide))
  refine ⟨Extent.tenths.domain, _, _, _, Extent.accepted_tenths, ?_, Extent.of_tenths.first,
    Extent.of_tenths.last, Extent.of_tenths.apart, past, ?_⟩
  · exact congrArg (· + 1) Extent.intervals_tenths
  · rintro ⟨xs, covers⟩
    obtain ⟨x, mem, beyond⟩ := past
    rw [covers.points] at mem
    obtain ⟨y, shown, same⟩ := List.mem_map.1 mem
    cases same
    exact absurd (covers.within x shown) (not_le.2 beyond)

end Plotter
