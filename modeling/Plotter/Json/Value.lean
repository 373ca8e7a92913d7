/-!
# JSON values as they are written

A value keeps what its text says and no more: a number its literal, an object its
fields in order with repetitions. A string whose escapes do not pair up into
characters (half a surrogate pair) is legal JSON but has no text.
-/

namespace Plotter.Json

/-- A JSON value. -/
inductive Value
  /-- `null` -/
  | null
  /-- `true` or `false` -/
  | bool (b : Bool)
  /-- A number, by its literal. -/
  | number (literal : List Char)
  /-- A string; `none` where its escapes leave half a pair. -/
  | string (text : Option String)
  /-- An array, its items in order. -/
  | array (items : List Value)
  /-- An object, its fields in the order written. -/
  | object (fields : List (Option String × Value))
  deriving Repr, Inhabited

/-- The text of a string value. -/
def Value.text? : Value → Option String
  | .string text => text
  | _ => none

/-- The truth value that a word stands for. -/
def Value.bool? : Value → Option Bool
  | .bool b => some b
  | _ => none

/-- The number that a row of decimal digits stands for. -/
def decimal (digits : List Char) : Nat :=
  digits.foldl (fun n c => 10 * n + (c.toNat - '0'.toNat)) 0

/-- The value of a number written as digits alone, if 64 bits hold it. -/
def Value.word? : Value → Option UInt64
  | .number literal =>
    if literal.all Char.isDigit && decimal literal < UInt64.size then
      some (UInt64.ofNat (decimal literal))
    else none
  | _ => none

end Plotter.Json
