/-!
# Reading numbers

A number is a row of digits with at most one point in it, at least one digit, a sign
before it if need be, and an exponent after it if need be; or one of the words for an
infinity and for no number, in any mixture of cases. The double nearest to it is taken.
-/

namespace Plotter.Decimal

/-- The number that a row of digits stands for. -/
def wholeOf (ds : List Char) : Nat := ds.foldl (fun n c => 10 * n + (c.toNat - '0'.toNat)) 0

/-- A sign, and the rest. -/
def takeSign : List Char → Bool × List Char
  | '-' :: rest => (true, rest)
  | '+' :: rest => (false, rest)
  | text => (false, text)

/-- An exponent, if the text is one or is empty. -/
def exponentOf? : List Char → Option Int
  | [] => some 0
  | c :: rest =>
    if c = 'e' || c = 'E' then
      let (negative, ds) := takeSign rest
      if ds.isEmpty || !ds.all Char.isDigit then none
      else some (if negative then -(wholeOf ds : Int) else wholeOf ds)
    else none

/-- The double nearest to `n * 10 ^ place`. Numbers far outside the range of the doubles
are not worked out. -/
def nearest (n : Nat) (place : Int) : Float :=
  let top := place + (Nat.toDigits 10 n).length
  if n = 0 || top < -400 then 0
  else if 400 < top then 1 / 0
  else if place < 0 then Float.ofScientific n true (-place).toNat
  else Float.ofScientific n false place.toNat

/-- The number without its sign. -/
def unsigned? (text : List Char) : Option Float :=
  let word := String.ofList (text.map Char.toLower)
  if word = "inf" || word = "infinity" then some (1 / 0)
  else if word = "nan" then some (0 / 0)
  else
    let whole := text.takeWhile Char.isDigit
    let rest := text.dropWhile Char.isDigit
    let (fraction, rest) := match rest with
      | '.' :: more => (more.takeWhile Char.isDigit, more.dropWhile Char.isDigit)
      | _ => ([], rest)
    if whole.isEmpty && fraction.isEmpty then none
    else (exponentOf? rest).map fun e =>
      nearest (wholeOf (whole ++ fraction)) (e - fraction.length)

/-- The double that a text stands for. -/
def float? (text : List Char) : Option Float :=
  let (negative, rest) := takeSign text
  (unsigned? rest).map fun x => if negative then -x else x

end Plotter.Decimal
