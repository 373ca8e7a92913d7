import Plotter.Json.Value

/-!
# Reading JSON

The reader is a pushdown automaton that takes one character at a time, so a value may
nest to any depth. Between tokens it knows what may come next (`Expect`) and, on its
stack, the arrays and objects that wait for the value being read; inside a token it
knows how far the token has got (`Mode`). `read?` accepts exactly one value with
blanks around it.
-/

namespace Plotter.Json

/-- The blanks that may stand between tokens. -/
def isSpace (c : Char) : Bool := c == ' ' || c == '\t' || c == '\n' || c == '\r'

/-! ### Strings -/

/-- A string literal so far: its characters (latest first), the first half of a pair
that waits for its second, and whether a half has already been left alone. -/
structure Literal where
  chars : List Char := []
  half : Option Nat := none
  broken : Bool := false
  deriving Repr, DecidableEq

/-- Whether a 16-bit number is the first half of a pair. -/
def isHighHalf (unit : Nat) : Bool := 0xD800 ≤ unit && unit ≤ 0xDBFF

/-- Whether a 16-bit number is the second half of a pair. -/
def isLowHalf (unit : Nat) : Bool := 0xDC00 ≤ unit && unit ≤ 0xDFFF

/-- The character that a pair of halves stands for. -/
def pairChar (high low : Nat) : Char :=
  Char.ofNat (0x10000 + (high - 0xD800) * 0x400 + (low - 0xDC00))

/-- Add a character. -/
def Literal.push (l : Literal) (c : Char) : Literal :=
  { chars := c :: l.chars, broken := l.broken || l.half.isSome }

/-- Add a 16-bit number written by its digits. -/
def Literal.pushUnit (l : Literal) (unit : Nat) : Literal :=
  match l.half with
  | some high =>
    if isLowHalf unit then { l with chars := pairChar high unit :: l.chars, half := none }
    else { l with half := none, broken := true }
  | none =>
    if isHighHalf unit then { l with half := some unit }
    else if isLowHalf unit then { l with broken := true }
    else { l with chars := Char.ofNat unit :: l.chars }

/-- The text of a finished literal. -/
def Literal.text? (l : Literal) : Option String :=
  if l.broken || l.half.isSome then none else some (String.ofList l.chars.reverse)

/-- The value of a hexadecimal digit of either case. -/
def hexValue? (c : Char) : Option Nat :=
  if c.isDigit then some (c.toNat - '0'.toNat)
  else if 'a' ≤ c && c ≤ 'f' then some (c.toNat - 'a'.toNat + 10)
  else if 'A' ≤ c && c ≤ 'F' then some (c.toNat - 'A'.toNat + 10)
  else none

/-- The character that a one-letter escape stands for. -/
def escaped? : Char → Option Char
  | '"' => some '"'
  | '\\' => some '\\'
  | '/' => some '/'
  | 'b' => some '\x08'
  | 'f' => some '\x0C'
  | 'n' => some '\n'
  | 'r' => some '\r'
  | 't' => some '\t'
  | _ => none

/-! ### Numbers -/

/-- How far a number literal has got. -/
inductive NumberPart
  /-- After the minus sign. -/
  | sign
  /-- After a leading zero. -/
  | zero
  /-- In the digits of a whole part. -/
  | whole
  /-- After the point. -/
  | point
  /-- In the digits after the point. -/
  | fraction
  /-- After the letter of the exponent. -/
  | exponent
  /-- After the sign of the exponent. -/
  | exponentSign
  /-- In the digits of the exponent. -/
  | exponentDigits
  deriving Repr, DecidableEq

/-- Whether a literal may end here. -/
def NumberPart.complete : NumberPart → Bool
  | .zero | .whole | .fraction | .exponentDigits => true
  | _ => false

/-- The part that a character leads to, if it continues the literal. -/
def NumberPart.next? (part : NumberPart) (c : Char) : Option NumberPart :=
  match part with
  | .sign => if c = '0' then some .zero else if c.isDigit then some .whole else none
  | .zero =>
    if c = '.' then some .point else if c = 'e' || c = 'E' then some .exponent else none
  | .whole =>
    if c.isDigit then some .whole
    else if c = '.' then some .point else if c = 'e' || c = 'E' then some .exponent else none
  | .point => if c.isDigit then some .fraction else none
  | .fraction =>
    if c.isDigit then some .fraction else if c = 'e' || c = 'E' then some .exponent else none
  | .exponent =>
    if c = '+' || c = '-' then some .exponentSign
    else if c.isDigit then some .exponentDigits else none
  | .exponentSign | .exponentDigits => if c.isDigit then some .exponentDigits else none

/-! ### The automaton -/

/-- An array or object that waits for a value; what it already holds comes latest
first. -/
inductive Frame
  | item (done : List Value)
  | field (done : List (Option String × Value)) (key : Option String)

/-- What may come next between tokens. -/
inductive Expect
  /-- A value. -/
  | value
  /-- A value, or the end of an array just opened. -/
  | firstItem
  /-- A comma or the end of an array. -/
  | moreItems (done : List Value)
  /-- A key, or the end of an object just opened. -/
  | firstKey
  /-- A key. -/
  | key (done : List (Option String × Value))
  /-- The colon after a key. -/
  | colon (done : List (Option String × Value)) (key : Option String)
  /-- A comma or the end of an object. -/
  | moreFields (done : List (Option String × Value))
  /-- Nothing but blanks: the value is complete. -/
  | nothing (value : Value)

/-- What a string is read for. -/
inductive Purpose
  | value
  | key (done : List (Option String × Value))

/-- Where a string literal stands. -/
inductive Escape
  /-- Outside an escape. -/
  | none
  /-- After the backslash. -/
  | letter
  /-- In the digits of a 16-bit number: its value so far, and the digits still owed
  after the next. -/
  | digits (unit owed : Nat)

/-- Between tokens, or inside one. -/
inductive Mode
  | between (expect : Expect)
  | word (rest : List Char) (value : Value)
  | string (purpose : Purpose) (literal : Literal) (escape : Escape)
  | number (part : NumberPart) (literal : List Char)

/-- The state of the reader: the frames that wait, innermost first, and the mode. -/
structure State where
  stack : List Frame := []
  mode : Mode := .between .value

/-- A value has been read: the innermost frame takes it. -/
def State.deliver (value : Value) : List Frame → State
  | [] => { mode := .between (.nothing value) }
  | .item done :: stack => { stack, mode := .between (.moreItems (value :: done)) }
  | .field done key :: stack => { stack, mode := .between (.moreFields ((key, value) :: done)) }

/-- The first character of a value. -/
def State.open? (stack : List Frame) (c : Char) : Option State :=
  if c = '"' then some { stack, mode := .string .value {} .none }
  else if c = '[' then some { stack, mode := .between .firstItem }
  else if c = '\x7b' then some { stack, mode := .between .firstKey }
  else if c = '-' then some { stack, mode := .number .sign [c] }
  else if c = '0' then some { stack, mode := .number .zero [c] }
  else if c.isDigit then some { stack, mode := .number .whole [c] }
  else if c = 't' then some { stack, mode := .word ['r', 'u', 'e'] (.bool true) }
  else if c = 'f' then some { stack, mode := .word ['a', 'l', 's', 'e'] (.bool false) }
  else if c = 'n' then some { stack, mode := .word ['u', 'l', 'l'] .null }
  else none

/-- A character between tokens that is not a blank. -/
def State.token? (stack : List Frame) (expect : Expect) (c : Char) : Option State :=
  match expect with
  | .value => open? stack c
  | .firstItem =>
    if c = ']' then some (deliver (.array []) stack) else open? (.item [] :: stack) c
  | .moreItems done =>
    if c = ',' then some { stack := .item done :: stack, mode := .between .value }
    else if c = ']' then some (deliver (.array done.reverse) stack) else none
  | .firstKey =>
    if c = '\x7d' then some (deliver (.object []) stack)
    else if c = '"' then some { stack, mode := .string (.key []) {} .none } else none
  | .key done =>
    if c = '"' then some { stack, mode := .string (.key done) {} .none } else none
  | .colon done key =>
    if c = ':' then some { stack := .field done key :: stack, mode := .between .value } else none
  | .moreFields done =>
    if c = ',' then some { stack, mode := .between (.key done) }
    else if c = '\x7d' then some (deliver (.object done.reverse) stack) else none
  | .nothing _ => none

/-- A character between tokens. -/
def State.between? (stack : List Frame) (expect : Expect) (c : Char) : Option State :=
  if isSpace c then some { stack, mode := .between expect } else token? stack expect c

/-- A string literal has been read. -/
def State.closeString (stack : List Frame) (literal : Literal) : Purpose → State
  | .value => deliver (.string literal.text?) stack
  | .key done => { stack, mode := .between (.colon done literal.text?) }

/-- A character inside a string literal. Control characters must be written as
escapes. -/
def State.inString? (stack : List Frame) (purpose : Purpose) (literal : Literal) (escape : Escape)
    (c : Char) : Option State :=
  match escape with
  | .none =>
    if c = '"' then some (closeString stack literal purpose)
    else if c = '\\' then some { stack, mode := .string purpose literal .letter }
    else if c.toNat < 0x20 then none
    else some { stack, mode := .string purpose (literal.push c) .none }
  | .letter =>
    if c = 'u' then some { stack, mode := .string purpose literal (.digits 0 3) }
    else (escaped? c).map fun e => { stack, mode := .string purpose (literal.push e) .none }
  | .digits unit owed =>
    (hexValue? c).map fun d =>
      match owed with
      | 0 => { stack, mode := .string purpose (literal.pushUnit (16 * unit + d)) .none }
      | owed + 1 => { stack, mode := .string purpose literal (.digits (16 * unit + d) owed) }

/-- A character inside or right after a number. -/
def State.inNumber? (stack : List Frame) (part : NumberPart) (literal : List Char) (c : Char) :
    Option State :=
  match part.next? c with
  | some part => some { stack, mode := .number part (c :: literal) }
  | none =>
    if part.complete then
      let s := deliver (.number literal.reverse) stack
      match s.mode with
      | .between expect => between? s.stack expect c
      | _ => none
    else none

/-- One character; `none` where no JSON text goes on like this. -/
def State.step? (s : State) (c : Char) : Option State :=
  match s.mode with
  | .between expect => between? s.stack expect c
  | .word rest value =>
    match rest with
    | [] => none
    | [last] => if c = last then some (deliver value s.stack) else none
    | next :: rest => if c = next then some { s with mode := .word rest value } else none
  | .string purpose literal escape => inString? s.stack purpose literal escape c
  | .number part literal => inNumber? s.stack part literal c

/-- The state after a text. -/
def State.run? (s : State) : List Char → Option State
  | [] => some s
  | c :: rest =>
    match s.step? c with
    | some s => s.run? rest
    | none => none

/-- The value, when the text may end here. -/
def State.value? (s : State) : Option Value :=
  match s.stack, s.mode with
  | [], .between (.nothing value) => some value
  | [], .number part literal => if part.complete then some (.number literal.reverse) else none
  | _, _ => none

/-- The value that a text is, blanks around it apart. -/
def read? (text : List Char) : Option Value := (State.run? {} text).bind State.value?

/-- Reading a text in two parts. -/
theorem State.run?_append (s : State) (a b : List Char) :
    s.run? (a ++ b) = (s.run? a).bind (·.run? b) := by
  induction a generalizing s with
  | nil => rfl
  | cons c rest ih =>
    simp only [List.cons_append, run?]
    cases s.step? c with
    | none => rfl
    | some s => exact ih s

namespace State

variable {stack : List Frame} {expect : Expect}

theorem run?_cons (s : State) (c : Char) (rest : List Char) :
    s.run? (c :: rest) = (s.step? c).bind (·.run? rest) := by
  rw [run?]
  cases s.step? c <;> rfl

theorem step?_of_space {c : Char} (h : isSpace c = true) :
    step? ⟨stack, .between expect⟩ c = some ⟨stack, .between expect⟩ := by
  simp [step?, between?, h]

theorem step?_of_not_space {c : Char} (h : isSpace c = false) :
    step? ⟨stack, .between expect⟩ c = token? stack expect c := by
  simp [step?, between?, h]

end State

end Plotter.Json
