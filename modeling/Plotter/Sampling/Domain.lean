import Plotter.Failure

/-!
# Sample domains

Evenly spaced points, each worked out from its index, so that no rounding error builds up
along the way. The number of points is worked out from the bounds and the step, with a
little slack for a quotient that falls just short of a whole number.

A domain is worked out in an arithmetic: the program does so in doubles, and what it means
to work out can be read in another one.
-/

namespace Plotter

/-- An arithmetic that a domain can be worked out in. -/
class Arithmetic (α : Type) extends Add α, Sub α, Mul α, Div α where
  /-- What a double is read as. -/
  ofFloat : Float → α
  /-- What a whole number is read as. -/
  ofInt : Int → α
  /-- Whether a value is a number. -/
  isFinite : α → Bool
  /-- The greatest whole number that is not above a number. -/
  floor : α → α
  /-- A whole number, zero or more, as a count. -/
  toNat : α → Nat
  /-- Whether a number is less than another. -/
  less : α → α → Bool
  /-- Whether a number is at most another. -/
  atMost : α → α → Bool

/-- The arithmetic of doubles. -/
instance : Arithmetic Float where
  ofFloat x := x
  ofInt := Float.ofInt
  isFinite := Float.isFinite
  floor := Float.floor
  toNat x := x.toUInt64.toNat
  less x y := x < y
  atMost x y := x ≤ y

open Arithmetic (ofFloat ofInt isFinite floor toNat less atMost)

/-- How the points follow one another. -/
inductive Spacing (α : Type)
  /-- The point with index `i` is `(first + i) / divisor`. -/
  | quotient (first : Int) (divisor : α)
  /-- The point with index `i` is `start + i * width`. -/
  | step (start width : α)

/-- The point with an index. -/
def Spacing.point {α : Type} [Arithmetic α] (index : Nat) : Spacing α → α
  | .quotient first divisor => ofInt (first + index) / divisor
  | .step start width => start + ofInt index * width

/-- A domain: at least one point. -/
structure SampleDomain (α : Type := Float) where
  spacing : Spacing α
  size : Nat
  nonempty : 0 < size

namespace SampleDomain

/-- The slack for a quotient that falls just short of a whole number. -/
def slack : Float := 1e-9

/-- From -10 to 10 in steps of a tenth. -/
def default : SampleDomain := ⟨.quotient (-100) 10, 201, by decide⟩

variable {α : Type} [Arithmetic α]

/-- The points from `start` on, `width` apart, up to `stop`, worked out in an arithmetic. -/
def ofBoundsIn (α : Type) [Arithmetic α] (start stop width : Float) :
    Except ConfigDefect (SampleDomain α) :=
  let first : α := ofFloat start
  let last : α := ofFloat stop
  let apart : α := ofFloat width
  if !(isFinite apart && less (ofInt 0) apart) then .error (.step width)
  else if !(isFinite first && isFinite last) || less last first then .error (.range start stop)
  else
    let intervals := floor ((last - first) / apart + ofFloat slack)
    if !isFinite intervals || atMost (ofInt maxPoints) intervals then
      .error (.tooMany start stop width)
    else .ok ⟨.step first apart, toNat intervals + 1, Nat.succ_pos _⟩

/-- The points from `start` on, `width` apart, up to `stop`. -/
def ofBounds (start stop width : Float) : Except ConfigDefect SampleDomain :=
  ofBoundsIn Float start stop width

/-- The point with an index. -/
def point (d : SampleDomain α) (index : Nat) : α := d.spacing.point index

/-- The points, in increasing order. -/
def points (d : SampleDomain α) : List α := (List.range d.size).map d.point

end SampleDomain

end Plotter
