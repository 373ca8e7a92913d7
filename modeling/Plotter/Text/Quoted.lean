import Plotter.Text.Hex
import Plotter.Text.Hidden

/-!
# Quoted text

A text between double quotes in which nothing is hidden: a quote and a backslash have a
backslash before them, the common controls have their letters, and every other hidden
character is given by its code point.
-/

namespace Plotter.Text

/-- The hexadecimal digits of a number, without leading zeros. -/
def hexOf (n : Nat) : List Char := Nat.toDigits 16 n

/-- A character in quoted text. -/
def quoteChar (c : Char) : List Char :=
  if c = '\x00' then ['\\', '0']
  else if c = '\t' then ['\\', 't']
  else if c = '\r' then ['\\', 'r']
  else if c = '\n' then ['\\', 'n']
  else if c = '"' || c = '\\' then ['\\', c]
  else if isHidden c then ['\\', 'u', '\x7b'] ++ hexOf c.toNat ++ ['\x7d']
  else [c]

/-- A text in quotes. -/
def quoted (text : String) : String :=
  String.ofList ('"' :: text.toList.flatMap quoteChar ++ ['"'])

end Plotter.Text
