import Mathlib
import Plotter.Proofs.Json.Layout

/-!
# All texts of JSON

`Layout` has the texts of values whose strings and keys have a text. The grammar of JSON goes
further: a string may be spelled with a number of 16 bits that is half a pair and has no other half
beside it. No text has such a spelling, yet the string is one, and so is a key that is spelled so.

`Wording` has the texts of all values, and nothing else that the grammar has not.
-/

namespace Plotter.Json

/-! ### Strings -/

/-- What may stand between the quotes of a string. -/
inductive Quotable : List Char → Prop
  | nil : Quotable []
  /-- A character that needs no escape. -/
  | plain {c : Char} {spelling : List Char} (unquote : c ≠ '"') (unescape : c ≠ '\\')
      (printed : 0x20 ≤ c.toNat) (rest : Quotable spelling) : Quotable (c :: spelling)
  /-- A letter that stands for a character. -/
  | letter {l c : Char} {spelling : List Char} (known : (l, c) ∈ letters)
      (rest : Quotable spelling) : Quotable ('\\' :: l :: spelling)
  /-- A number of 16 bits, whatever it stands for. -/
  | unit {unit : Nat} {digits spelling : List Char} (narrow : unit < 0x10000)
      (written : UnitDigits unit digits) (rest : Quotable spelling) :
      Quotable ('\\' :: 'u' :: digits ++ spelling)

/-- What stands between the quotes of a string: a spelling of its text or, for a string without a
text, whatever spells none. -/
inductive Quotes : Option String → List Char → Prop
  | text {text : String} {spelling : List Char} (h : Spells text.toList spelling) :
      Quotes (some text) spelling
  | textless {spelling : List Char} (quotable : Quotable spelling)
      (silent : ∀ text, ¬Spells text spelling) : Quotes none spelling

/-- What spells a text may stand between quotes. -/
theorem Spells.quotable {text spelling : List Char} (h : Spells text spelling) :
    Quotable spelling := by
  induction h with
  | nil => exact .nil
  | plain unquote unescape printed rest ih => exact .plain unquote unescape printed ih
  | letter known rest ih => exact .letter known ih
  | unit narrow written rest ih => exact .unit narrow written ih
  | pair wide first second rest ih =>
    exact .unit (highHalf_lt _) first (.unit (lowHalf_lt _) second ih)

theorem Spells.append {text spelling more spelling' : List Char} (h : Spells text spelling)
    (h' : Spells more spelling') : Spells (text ++ more) (spelling ++ spelling') := by
  induction h with
  | nil => exact h'
  | plain unquote unescape printed rest ih => exact .plain unquote unescape printed ih
  | letter known rest ih => exact .letter known ih
  | unit narrow written rest ih => simpa using Spells.unit narrow written ih
  | pair wide first second rest ih => simpa using Spells.pair wide first second ih

/-! ### Values -/

/-- What is worded: a value, or one of the parts of an array or an object. -/
inductive Piece
  | value (v : Value)
  /-- A value with blanks around it. -/
  | padded (v : Value)
  /-- The items of an array that is not empty. -/
  | items (vs : List Value)
  /-- The fields of an object that is not empty. -/
  | fields (fs : List (Option String × Value))

/-- The texts of a value or of a piece. -/
inductive Wording : Piece → List Char → Prop
  | null : Wording (.value .null) ['n', 'u', 'l', 'l']
  | true : Wording (.value (.bool true)) ['t', 'r', 'u', 'e']
  | false : Wording (.value (.bool false)) ['f', 'a', 'l', 's', 'e']
  | number {sign whole fraction exponent : List Char}
      (h : IsNumber sign whole fraction exponent) :
      Wording (.value (.number (sign ++ (whole ++ (fraction ++ exponent)))))
        (sign ++ (whole ++ (fraction ++ exponent)))
  | string {text : Option String} {spelling : List Char} (h : Quotes text spelling) :
      Wording (.value (.string text)) ('"' :: (spelling ++ ['"']))
  | noItems {blanks : List Char} (h : Blanks blanks) :
      Wording (.value (.array [])) ('[' :: (blanks ++ [']']))
  | array {vs : List Value} {text : List Char} (h : Wording (.items vs) text) :
      Wording (.value (.array vs)) ('[' :: (text ++ [']']))
  | noFields {blanks : List Char} (h : Blanks blanks) :
      Wording (.value (.object [])) ('\x7b' :: (blanks ++ ['\x7d']))
  | object {fs : List (Option String × Value)} {text : List Char} (h : Wording (.fields fs) text) :
      Wording (.value (.object fs)) ('\x7b' :: (text ++ ['\x7d']))
  | padded {v : Value} {before text after : List Char} (left : Blanks before) (right : Blanks after)
      (h : Wording (.value v) text) : Wording (.padded v) (before ++ (text ++ after))
  | item {v : Value} {text : List Char} (h : Wording (.padded v) text) : Wording (.items [v]) text
  | items {v : Value} {vs : List Value} {text texts : List Char} (h : Wording (.padded v) text)
      (rest : Wording (.items vs) texts) : Wording (.items (v :: vs)) (text ++ ',' :: texts)
  | field {key : Option String} {v : Value} {before spelling after text : List Char}
      (left : Blanks before) (quoted : Quotes key spelling) (right : Blanks after)
      (h : Wording (.padded v) text) :
      Wording (.fields [(key, v)]) (before ++ ('"' :: (spelling ++ '"' :: (after ++ ':' :: text))))
  | fields {f : Option String × Value} {fs : List (Option String × Value)} {text texts : List Char}
      (h : Wording (.fields [f]) text) (rest : Wording (.fields fs) texts) :
      Wording (.fields (f :: fs)) (text ++ ',' :: texts)

namespace Wording

/-- A value without blanks around it is one with blanks around it. -/
theorem bare {v : Value} {text : List Char} (h : Wording (.value v) text) :
    Wording (.padded v) text := by
  simpa using Wording.padded .nil .nil h

/-- Blanks may be put after all but a value that has none around it. -/
theorem append_blanks {piece : Piece} {text blanks : List Char} (h : Wording piece text)
    (apart : ∀ v, piece ≠ .value v) (all : Blanks blanks) : Wording piece (text ++ blanks) := by
  induction h with
  | padded left right h => simpa using padded left (right.append all) h
  | item h ih => exact item (ih (by simp))
  | items h rest _ ih => simpa using items h (ih (by simp))
  | field left quoted right h ih => simpa using field left quoted right (ih (by simp))
  | fields h rest _ ih => simpa using fields h (ih (by simp))
  | _ => exact absurd rfl (apart _)

/-- An item more. -/
theorem concat_item {vs : List Value} {v : Value} {texts text : List Char}
    (h : Wording (.items vs) texts) (h' : Wording (.padded v) text) :
    Wording (.items (vs ++ [v])) (texts ++ ',' :: text) := by
  generalize same : Piece.items vs = piece at h
  induction h generalizing vs with
  | item first =>
    obtain rfl := Piece.items.inj same
    exact items first (item h')
  | items first rest _ ih =>
    obtain rfl := Piece.items.inj same
    simpa using items first (ih rfl)
  | _ => simp at same

/-- A field more. -/
theorem concat_field {fs : List (Option String × Value)} {f : Option String × Value}
    {texts text : List Char} (h : Wording (.fields fs) texts) (h' : Wording (.fields [f]) text) :
    Wording (.fields (fs ++ [f])) (texts ++ ',' :: text) := by
  generalize same : Piece.fields fs = piece at h
  induction h generalizing fs with
  | field left quoted right first =>
    obtain rfl := Piece.fields.inj same
    exact fields (field left quoted right first) h'
  | fields first rest _ ih =>
    obtain rfl := Piece.fields.inj same
    simpa using fields first (ih rfl)
  | _ => simp at same

end Wording

/-- The piece that is laid out with a part. -/
def Part.piece : Part → Piece
  | .value v => .value v
  | .padded v => .padded v
  | .items vs => .items vs
  | .field key v => .fields [(some key, v)]
  | .fields fs => .fields fs

/-- **Every layout is a wording.** -/
theorem Layout.wording {part : Part} {text : List Char} (h : Layout part text) :
    Wording part.piece text := by
  induction h with
  | null => exact .null
  | true => exact .true
  | false => exact .false
  | number h => exact .number h
  | string h => exact .string (.text h)
  | noItems h => exact .noItems h
  | array _ ih => exact .array ih
  | noFields h => exact .noFields h
  | object _ ih => exact .object ih
  | padded left right _ ih => exact .padded left right ih
  | item _ ih => exact .item ih
  | items _ _ ih ih' => exact .items ih ih'
  | key left spelled right _ ih => exact .field left (.text spelled) right ih
  | field _ ih => exact ih
  | fields _ _ ih ih' => exact .fields ih ih'

end Plotter.Json
