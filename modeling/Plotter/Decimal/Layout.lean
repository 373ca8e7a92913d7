import Plotter.Decimal.Shortest

/-!
# Numbers as text

The layout of a number's shortest digits: where positional notation ends and an exponent
begins, whether a whole number shows a fraction, and how the values that are no finite
numbers are spelt. A `Style` holds these decisions; two of them are in use. Numbers with a
fixed number of places are laid out here as well.
-/

namespace Plotter.Decimal

/-- How numbers are written. -/
structure Style where
  /-- Which of two equally near digit rows is taken. -/
  tie : Tie
  /-- The powers of ten of the first digit that are written positionally: from the first
  of the pair, and below the second. Without a pair, all are. -/
  positionalRange : Option (Int × Int)
  /-- What a whole number has after its last digit. -/
  wholeEnd : String
  /-- The text of what is no number. -/
  nan : String
  /-- The texts of the positive and the negative infinity. -/
  infinities : String × String

/-- Numbers in running text: always positional, a whole number without a point. -/
def Style.plain : Style :=
  { tie := .up, positionalRange := none, wholeEnd := "", nan := "NaN",
    infinities := ("inf", "-inf") }

/-- Numbers in JSON: positional from `0.00001` to below `10 ^ 16`, a whole number with
`.0`, and null for what JSON cannot write. -/
def Style.json : Style :=
  { tie := .even, positionalRange := some (-5, 16), wholeEnd := ".0", nan := "null",
    infinities := ("null", "null") }

/-- The decimal digits of a number. -/
def digits (n : Nat) : List Char := Nat.toDigits 10 n

/-- Digits with a point before the last `places` of them. -/
def withPoint (ds : List Char) (places : Nat) : List Char :=
  let ds := List.replicate (places + 1 - ds.length) '0' ++ ds
  ds.take (ds.length - places) ++ '.' :: ds.drop (ds.length - places)

/-- A number of `10 ^ place` in positional notation. -/
def positional (wholeEnd : String) (n : Nat) (place : Int) : List Char :=
  if 0 ≤ place then digits n ++ List.replicate place.toNat '0' ++ wholeEnd.toList
  else withPoint (digits n) (-place).toNat

/-- A number of `10 ^ place` with its exponent, the first digit before the point. -/
def scientific (n : Nat) (place : Int) : List Char :=
  let ds := digits n
  let exponent := place + ds.length - 1
  let mantissa := if ds.length = 1 then ds else ds.take 1 ++ '.' :: ds.drop 1
  mantissa ++ 'e' :: (if exponent < 0 then '-' else '+') :: digits exponent.natAbs

/-- The text of a double in a style. -/
def Style.render (style : Style) (x : Float) : String :=
  match Binary64.ofFloat x with
  | .nan => style.nan
  | .infinite false => style.infinities.1
  | .infinite true => style.infinities.2
  | .finite negative m e =>
    let body :=
      if m = 0 then positional style.wholeEnd 0 0
      else
        let (n, place) := Positive.shortest style.tie ⟨m, e⟩
        let first := place + (digits n).length - 1
        match style.positionalRange with
        | none => positional style.wholeEnd n place
        | some (from', below) =>
          if from' ≤ first ∧ first < below then positional style.wholeEnd n place
          else scientific n place
    String.ofList (if negative then '-' :: body else body)

/-- The text of a double with a fixed number of places, rounded from its exact value,
halves to the even neighbour. The sign stays when the digits are zero. -/
def fixed (places : Nat) (x : Float) : String :=
  match Binary64.ofFloat x with
  | .nan => Style.plain.nan
  | .infinite false => Style.plain.infinities.1
  | .infinite true => Style.plain.infinities.2
  | .finite negative m e =>
    let n := roundToEven (m * Nat.pow 10 places * Nat.pow 2 e.toNat) (Nat.pow 2 (-e).toNat)
    let body := withPoint (digits n) places
    String.ofList (if negative then '-' :: body else body)

/-- A text at the right of a field of some width. -/
def rightAligned (width : Nat) (text : String) : String :=
  String.ofList (List.replicate (width - text.length) ' ') ++ text

end Plotter.Decimal
