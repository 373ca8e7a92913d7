import Plotter.Text.Hex

/-!
# Writing JSON

A document is written either on one line without blanks, or with one field or item a
line, indented by two spaces a level. A string is written with the short escapes where
there are any, `\u00xx` for the other control characters, and every other character as
it is.
-/

namespace Plotter.Json

/-- What is written: numbers come with their digits. -/
inductive Document
  | null
  | bool (b : Bool)
  | number (digits : String)
  | string (text : String)
  | array (items : List Document)
  | object (fields : List (String × Document))
  deriving Inhabited

/-- A value that may be absent, null if it is. -/
def Document.ofOption {α : Type} (write : α → Document) : Option α → Document
  | some a => write a
  | none => .null

/-- A character inside a string literal. -/
def escape (c : Char) : List Char :=
  if c = '"' then ['\\', '"']
  else if c = '\\' then ['\\', '\\']
  else if c = '\n' then ['\\', 'n']
  else if c = '\r' then ['\\', 'r']
  else if c = '\t' then ['\\', 't']
  else if c = '\x08' then ['\\', 'b']
  else if c = '\x0C' then ['\\', 'f']
  else if c.toNat < 0x20 then ['\\', 'u', '0', '0'] ++ Text.hexDigits 2 c.toNat
  else [c]

/-- A string literal. -/
def literal (text : String) : List Char := '"' :: text.toList.flatMap escape ++ ['"']

namespace Document

mutual

/-- The document on one line. -/
def compact : Document → List Char
  | .null => ['n', 'u', 'l', 'l']
  | .bool true => ['t', 'r', 'u', 'e']
  | .bool false => ['f', 'a', 'l', 's', 'e']
  | .number digits => digits.toList
  | .string text => literal text
  | .array items => '[' :: compactItems items ++ [']']
  | .object fields => '\x7b' :: compactFields fields ++ ['\x7d']

/-- Items with commas between them. -/
def compactItems : List Document → List Char
  | [] => []
  | [item] => compact item
  | item :: items => compact item ++ ',' :: compactItems items

/-- Fields with commas between them. -/
def compactFields : List (String × Document) → List Char
  | [] => []
  | [(key, value)] => literal key ++ ':' :: compact value
  | (key, value) :: fields => literal key ++ ':' :: compact value ++ ',' :: compactFields fields

end

/-- A new line, indented. -/
def newline (depth : Nat) : List Char := '\n' :: List.replicate (2 * depth) ' '

mutual

/-- The document over several lines, its first one begun at a depth. -/
def pretty (depth : Nat) : Document → List Char
  | .null => ['n', 'u', 'l', 'l']
  | .bool true => ['t', 'r', 'u', 'e']
  | .bool false => ['f', 'a', 'l', 's', 'e']
  | .number digits => digits.toList
  | .string text => literal text
  | .array [] => ['[', ']']
  | .array items => '[' :: prettyItems (depth + 1) items ++ newline depth ++ [']']
  | .object [] => ['\x7b', '\x7d']
  | .object fields => '\x7b' :: prettyFields (depth + 1) fields ++ newline depth ++ ['\x7d']

/-- Items, each on a line of its own. -/
def prettyItems (depth : Nat) : List Document → List Char
  | [] => []
  | [item] => newline depth ++ pretty depth item
  | item :: items => newline depth ++ pretty depth item ++ ',' :: prettyItems depth items

/-- Fields, each on a line of its own. -/
def prettyFields (depth : Nat) : List (String × Document) → List Char
  | [] => []
  | [(key, value)] => newline depth ++ literal key ++ ':' :: ' ' :: pretty depth value
  | (key, value) :: fields =>
    newline depth ++ literal key ++ ':' :: ' ' :: pretty depth value ++
      ',' :: prettyFields depth fields

end

/-- The text of a document on one line. -/
def compactText (d : Document) : String := String.ofList d.compact

/-- The text of a document over several lines. -/
def prettyText (d : Document) : String := String.ofList (d.pretty 0)

end Document

end Plotter.Json
