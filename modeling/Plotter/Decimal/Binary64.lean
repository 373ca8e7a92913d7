/-!
# Double-precision numbers

What a double stands for, read off its bits: a whole number times a power of two, an
infinity, or no number. Everything that turns a double into text works on this form, in
exact arithmetic.
-/

namespace Plotter.Decimal

/-- The number that a double stands for. -/
inductive Binary64
  /-- No number. -/
  | nan
  /-- Positive or negative infinity. -/
  | infinite (negative : Bool)
  /-- The number `significand * 2 ^ exponent`, negated if `negative`; zero has a sign too. -/
  | finite (negative : Bool) (significand : Nat) (exponent : Int)
  deriving Repr, DecidableEq

/-- The number that 64 bits stand for: a sign, eleven bits of exponent, 52 of fraction. -/
def Binary64.ofBits (bits : UInt64) : Binary64 :=
  let n := bits.toNat
  let negative := n / Nat.pow 2 63 = 1
  let exponent : Nat := n / Nat.pow 2 52 % Nat.pow 2 11
  let fraction : Nat := n % Nat.pow 2 52
  if exponent = 2047 then if fraction = 0 then .infinite negative else .nan
  else if exponent = 0 then .finite negative fraction (-1074)
  else .finite negative (Nat.pow 2 52 + fraction) (Int.ofNat exponent - 1075)

/-- The number that a double stands for. -/
def Binary64.ofFloat (x : Float) : Binary64 := .ofBits x.toBits

/-- A number of whole units that is `num / den`, halves going to the even neighbour. -/
def roundToEven (num den : Nat) : Nat :=
  let quotient := num / den
  let double := 2 * (num % den)
  if double < den then quotient
  else if den < double then quotient + 1
  else if quotient % 2 = 0 then quotient else quotient + 1

end Plotter.Decimal
