import Plotter.Decimal.Binary64

/-!
# The fewest digits that read back

A double is read back from every decimal number in the interval around it that rounds
to it. Among the decimal numbers of that interval those with the fewest digits are
wanted, and of these the nearest. The search goes through ever finer grids of powers of
ten: if a grid meets the interval at all, then it does so in one of the two neighbours
of the double on that grid.
-/

namespace Plotter.Decimal

/-- Which of two equally near candidates is taken. -/
inductive Tie
  /-- The even one. -/
  | even
  /-- The one farther from zero. -/
  | up
  deriving Repr, DecidableEq

/-- A positive double, `significand * 2 ^ exponent`. -/
structure Positive where
  significand : Nat
  exponent : Int
  deriving Repr, DecidableEq

namespace Positive

/-- The numbers on the grid of multiples of `10 ^ place` are compared with the double and
the ends of its interval after both are multiplied into whole numbers: a grid point `c`
becomes `c * gridScale`, a quarter of the double's last place `k` becomes
`k * quarterScale`. -/
def gridScale (x : Positive) (place : Int) : Nat :=
  Nat.pow 10 place.toNat * Nat.pow 2 (2 - x.exponent).toNat

/-- The factor of a quarter of the last place. -/
def quarterScale (x : Positive) (place : Int) : Nat :=
  Nat.pow 10 (-place).toNat * Nat.pow 2 (x.exponent - 2).toNat

/-- The lower end of the interval in quarters of the last place. Below a power of two the
doubles stand twice as close. -/
def lowerEnd (x : Positive) : Nat :=
  if x.significand = Nat.pow 2 52 ∧ -1074 < x.exponent then 4 * x.significand - 1
  else 4 * x.significand - 2

/-- The upper end of the interval in quarters of the last place. -/
def upperEnd (x : Positive) : Nat := 4 * x.significand + 2

/-- Whether the grid point `c * 10 ^ place` reads back as the double. The ends of the
interval belong to it when the significand is even. -/
def readsBack (x : Positive) (place : Int) (c : Nat) : Bool :=
  let point := c * x.gridScale place
  let lower := x.lowerEnd * x.quarterScale place
  let upper := x.upperEnd * x.quarterScale place
  if x.significand % 2 = 0 then lower ≤ point && point ≤ upper
  else lower < point && point < upper

/-- The grid point to take, if one of the two neighbours of the double reads back. -/
def onGrid? (tie : Tie) (x : Positive) (place : Int) : Option Nat :=
  let value := 4 * x.significand * x.quarterScale place
  let below := value / x.gridScale place
  match x.readsBack place below, x.readsBack place (below + 1) with
  | false, false => none
  | true, false => some below
  | false, true => some (below + 1)
  | true, true =>
    let middle := (2 * below + 1) * x.gridScale place
    if 2 * value < middle then some below
    else if middle < 2 * value then some (below + 1)
    else match tie with
      | .up => some (below + 1)
      | .even => some (if below % 2 = 0 then below else below + 1)

/-- A power of ten above the double. -/
def topPlace (x : Positive) : Int :=
  (x.exponent + x.significand.log2 + 1) * 30103 / 100000 + 1

/-- The first grid that has a point to take, among the next `count` from `place` on. -/
def search (tie : Tie) (x : Positive) : (count : Nat) → (place : Int) → Option (Nat × Int)
  | 0, _ => none
  | count + 1, place =>
    match x.onGrid? tie place with
    | some c => some (c, place)
    | none => search tie x count (place - 1)

/-- The exact value of a double as a whole number of a power of ten. -/
def exact (x : Positive) : Nat × Int :=
  if 0 ≤ x.exponent then (x.significand * Nat.pow 2 x.exponent.toNat, 0)
  else (x.significand * Nat.pow 5 (-x.exponent).toNat, x.exponent)

/-- The digits (as a number) and the place of the last one. Seventeen digits always
suffice, and the search begins at most two places above the first. -/
def shortest (tie : Tie) (x : Positive) : Nat × Int :=
  (x.search tie 20 x.topPlace).getD x.exact

end Positive

end Plotter.Decimal
