import Plotter.Json.Reader
import Plotter.Text.Hex

/-!
# How JSON is laid out

A value can be laid out as a text in many ways. Blanks may stand around each of its tokens. A
character of a string may stand for itself, or be spelled with its letter or by its numbers of 16
bits, one or a pair, with digits of either case. A number is laid out as its literal alone.

`Layout` has the texts of a value, and those of the parts that a value is made of. It says nothing
of how a text is read.
-/

namespace Plotter.Json

/-- Blanks alone. -/
def Blanks (text : List Char) : Prop := ∀ c ∈ text, isSpace c = true

theorem Blanks.nil : Blanks [] := fun _ member => absurd member List.not_mem_nil

theorem Blanks.append {a b : List Char} (h : Blanks a) (h' : Blanks b) : Blanks (a ++ b) :=
  fun c member => (List.mem_append.1 member).elim (h c) (h' c)

/-! ### Strings -/

/-- The four digits of a 16-bit number to base sixteen, each of either case. -/
def UnitDigits (unit : Nat) (digits : List Char) : Prop :=
  digits.map Char.toLower = Text.hexDigits 4 unit

/-- The letters that stand for characters after a backslash, each with its character. -/
def letters : List (Char × Char) :=
  [('"', '"'), ('\\', '\\'), ('/', '/'), ('b', '\x08'), ('f', '\x0C'), ('n', '\n'), ('r', '\r'),
    ('t', '\t')]

/-- The first half of the pair for a character of more than 16 bits. -/
def highHalf (c : Char) : Nat := 0xD800 + (c.toNat - 0x10000) / 0x400

/-- The second half of the pair for a character of more than 16 bits. -/
def lowHalf (c : Char) : Nat := 0xDC00 + (c.toNat - 0x10000) % 0x400

theorem toNat_lt (c : Char) : c.toNat < 0x110000 := by
  rcases c.valid with low | ⟨-, high⟩
  · exact Nat.lt_trans low (by decide)
  · exact high

theorem highHalf_lt (c : Char) : highHalf c < 0x10000 := by
  have := toNat_lt c
  unfold highHalf
  omega

theorem lowHalf_lt (c : Char) : lowHalf c < 0x10000 := by
  unfold lowHalf
  omega

/-- The spellings of a text inside a string literal. -/
inductive Spells : (text spelling : List Char) → Prop
  | nil : Spells [] []
  /-- A character stands for itself. -/
  | plain {c : Char} {text spelling : List Char} (unquote : c ≠ '"') (unescape : c ≠ '\\')
      (printed : 0x20 ≤ c.toNat) (rest : Spells text spelling) : Spells (c :: text) (c :: spelling)
  /-- A letter stands for a character. -/
  | letter {l c : Char} {text spelling : List Char} (known : (l, c) ∈ letters)
      (rest : Spells text spelling) : Spells (c :: text) ('\\' :: l :: spelling)
  /-- A number of 16 bits stands for a character. -/
  | unit {c : Char} {digits text spelling : List Char} (narrow : c.toNat < 0x10000)
      (written : UnitDigits c.toNat digits) (rest : Spells text spelling) :
      Spells (c :: text) ('\\' :: 'u' :: digits ++ spelling)
  /-- Two halves stand for a character. -/
  | pair {c : Char} {high low text spelling : List Char} (wide : 0x10000 ≤ c.toNat)
      (first : UnitDigits (highHalf c) high) (second : UnitDigits (lowHalf c) low)
      (rest : Spells text spelling) :
      Spells (c :: text) ('\\' :: 'u' :: high ++ ('\\' :: 'u' :: low ++ spelling))

/-! ### Numbers -/

/-- Decimal digits, at least one. -/
def Digits (text : List Char) : Prop := text ≠ [] ∧ ∀ c ∈ text, c.isDigit = true

/-- The whole part of a number: no needless zero stands at its front. -/
def Whole (text : List Char) : Prop := text = ['0'] ∨ (Digits text ∧ text.head? ≠ some '0')

/-- The fraction of a number, if it has one. -/
def Fraction (text : List Char) : Prop := text = [] ∨ ∃ digits, Digits digits ∧ text = '.' :: digits

/-- The exponent of a number, if it has one. -/
def Exponent (text : List Char) : Prop :=
  text = [] ∨ ∃ e sign digits, (e = 'e' ∨ e = 'E') ∧ (sign = [] ∨ sign = ['+'] ∨ sign = ['-']) ∧
    Digits digits ∧ text = e :: (sign ++ digits)

/-- The literals of numbers. -/
structure IsNumber (sign whole fraction exponent : List Char) : Prop where
  sign : sign = [] ∨ sign = ['-']
  whole : Whole whole
  fraction : Fraction fraction
  exponent : Exponent exponent

/-! ### Values -/

/-- What is laid out: a value, or one of the parts of an array or an object. -/
inductive Part
  | value (v : Value)
  /-- A value with blanks around it. -/
  | padded (v : Value)
  /-- The items of an array that is not empty. -/
  | items (vs : List Value)
  | field (key : String) (v : Value)
  /-- The fields of an object that is not empty. -/
  | fields (fs : List (Option String × Value))

/-- The texts of a value or of a part. -/
inductive Layout : Part → List Char → Prop
  | null : Layout (.value .null) ['n', 'u', 'l', 'l']
  | true : Layout (.value (.bool true)) ['t', 'r', 'u', 'e']
  | false : Layout (.value (.bool false)) ['f', 'a', 'l', 's', 'e']
  | number {sign whole fraction exponent : List Char}
      (h : IsNumber sign whole fraction exponent) :
      Layout (.value (.number (sign ++ (whole ++ (fraction ++ exponent)))))
        (sign ++ (whole ++ (fraction ++ exponent)))
  | string {text : String} {spelling : List Char} (h : Spells text.toList spelling) :
      Layout (.value (.string (some text))) ('"' :: (spelling ++ ['"']))
  | noItems {blanks : List Char} (h : Blanks blanks) :
      Layout (.value (.array [])) ('[' :: (blanks ++ [']']))
  | array {vs : List Value} {text : List Char} (h : Layout (.items vs) text) :
      Layout (.value (.array vs)) ('[' :: (text ++ [']']))
  | noFields {blanks : List Char} (h : Blanks blanks) :
      Layout (.value (.object [])) ('\x7b' :: (blanks ++ ['\x7d']))
  | object {fs : List (Option String × Value)} {text : List Char} (h : Layout (.fields fs) text) :
      Layout (.value (.object fs)) ('\x7b' :: (text ++ ['\x7d']))
  | padded {v : Value} {before text after : List Char} (left : Blanks before) (right : Blanks after)
      (h : Layout (.value v) text) : Layout (.padded v) (before ++ (text ++ after))
  | item {v : Value} {text : List Char} (h : Layout (.padded v) text) : Layout (.items [v]) text
  | items {v : Value} {vs : List Value} {text texts : List Char} (h : Layout (.padded v) text)
      (rest : Layout (.items vs) texts) : Layout (.items (v :: vs)) (text ++ ',' :: texts)
  | key {key : String} {v : Value} {before spelling after text : List Char} (left : Blanks before)
      (spelled : Spells key.toList spelling) (right : Blanks after) (h : Layout (.padded v) text) :
      Layout (.field key v) (before ++ ('"' :: (spelling ++ '"' :: (after ++ ':' :: text))))
  | field {key : String} {v : Value} {text : List Char} (h : Layout (.field key v) text) :
      Layout (.fields [(some key, v)]) text
  | fields {key : String} {v : Value} {fs : List (Option String × Value)} {text texts : List Char}
      (h : Layout (.field key v) text) (rest : Layout (.fields fs) texts) :
      Layout (.fields ((some key, v) :: fs)) (text ++ ',' :: texts)

/-- A value without blanks around it is one with blanks around it. -/
theorem Layout.bare {v : Value} {text : List Char} (h : Layout (.value v) text) :
    Layout (.padded v) text := by
  simpa using Layout.padded .nil .nil h

end Plotter.Json
