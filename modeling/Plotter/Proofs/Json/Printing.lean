import Mathlib
import Plotter.Json.Printer
import Plotter.Proofs.Json.Reading

/-!
# What is printed can be read

A document on one line is a layout of the value that it stands for, so the reader reads that value.
The digits of a number are the caller's, so this is said of documents whose numbers are numbers.

## What is proved

* `Document.layout_compact`: a document on one line is a layout of its value.
* `Document.not_mem_compact`: a document on one line is one line.
-/

namespace Plotter.Json

/-! ### Numerals -/

theorem digits_toDigits (n : Nat) : Digits (Nat.toDigits 10 n) :=
  ⟨Nat.toDigits_ne_nil, fun _ => Nat.isDigit_of_mem_toDigits (by decide) (by decide)⟩

/-- No numeral but that of zero begins with a zero. -/
theorem head?_toDigits {n : Nat} (positive : 0 < n) : (Nat.toDigits 10 n).head? ≠ some '0' := by
  induction n using Nat.strong_induction_on with
  | _ n ih =>
    rw [Nat.toDigits_eq_if (by decide)]
    split
    · rename_i small
      have digit : ∀ k : Fin 10, 0 < k.val → Nat.digitChar k ≠ '0' := by decide
      simpa using digit ⟨n, small⟩ positive
    · have more := ih (n / 10) (by omega) (by omega)
      cases front : Nat.toDigits 10 (n / 10) with
      | nil => exact absurd front Nat.toDigits_ne_nil
      | cons c rest =>
        rw [front] at more
        simpa using more

theorem whole_toDigits (n : Nat) : Whole (Nat.toDigits 10 n) := by
  rcases Nat.eq_zero_or_pos n with rfl | positive
  · exact .inl (Nat.toDigits_zero 10)
  · exact .inr ⟨digits_toDigits n, head?_toDigits positive⟩

theorem isNumber_toDigits (n : Nat) : IsNumber [] (Nat.toDigits 10 n) [] [] :=
  ⟨.inl rfl, whole_toDigits n, .inl rfl, .inl rfl⟩

/-! ### Strings -/

/-- The escape of a character is one of its spellings. -/
theorem spells_escape (c : Char) {text spelling : List Char} (rest : Spells text spelling) :
    Spells (c :: text) (escape c ++ spelling) := by
  have spelled {c l : Char} (known : (l, c) ∈ letters) :
      Spells (c :: text) (['\\', l] ++ spelling) := .letter known rest
  unfold escape
  split_ifs with quote backslash feed ret tab back form control
  · subst quote
    exact spelled (by decide)
  · subst backslash
    exact spelled (by decide)
  · subst feed
    exact spelled (by decide)
  · subst ret
    exact spelled (by decide)
  · subst tab
    exact spelled (by decide)
  · subst back
    exact spelled (by decide)
  · subst form
    exact spelled (by decide)
  · have written : UnitDigits c.toNat (['0', '0'] ++ Text.hexDigits 2 c.toNat) := by
      have all : ∀ k : Fin 0x20, (['0', '0'] ++ Text.hexDigits 2 k).map Char.toLower =
          Text.hexDigits 4 k := by decide +kernel
      exact all ⟨c.toNat, control⟩
    exact .unit (Nat.lt_trans control (by decide)) written rest
  · exact .plain quote backslash (Nat.not_lt.1 control) rest

theorem spells_flatMap (text : List Char) : Spells text (text.flatMap escape) := by
  induction text with
  | nil => exact .nil
  | cons c text ih => exact spells_escape c ih

/-! ### Line feeds -/

theorem not_mem_escape (c : Char) : '\n' ∉ escape c := by
  unfold escape
  split_ifs with quote backslash feed ret tab back form control
  · decide
  · decide
  · decide
  · decide
  · decide
  · decide
  · decide
  · have all : ∀ k : Fin 0x20, '\n' ∉ ['\\', 'u', '0', '0'] ++ Text.hexDigits 2 k := by decide +kernel
    exact all ⟨c.toNat, control⟩
  · simpa using fun same => feed same.symm

theorem not_mem_literal (text : String) : '\n' ∉ literal text := by
  simp [literal, not_mem_escape]

theorem Digits.not_mem {text : List Char} (h : Digits text) {c : Char}
    (other : c.isDigit = false) : c ∉ text := fun member => by
  rw [h.2 c member] at other
  cases other

/-- What is in a number is a digit, or one of five signs and letters. -/
theorem IsNumber.not_mem {sign whole fraction exponent : List Char}
    (h : IsNumber sign whole fraction exponent) {c : Char} (other : c.isDigit = false)
    (unsigned : c ∉ ['-', '+', '.', 'e', 'E']) :
    c ∉ sign ++ (whole ++ (fraction ++ exponent)) := by
  have zero : c ≠ '0' := by
    rintro rfl
    exact absurd other (by decide)
  simp only [List.mem_cons, List.not_mem_nil, or_false, not_or] at unsigned
  obtain ⟨minus, plus, point, lower, upper⟩ := unsigned
  simp only [List.mem_append, not_or]
  refine ⟨?_, ?_, ?_, ?_⟩
  · rcases h.sign with rfl | rfl <;> simp [minus]
  · rcases h.whole with rfl | ⟨digits, -⟩
    · simp [zero]
    · exact digits.not_mem other
  · rcases h.fraction with rfl | ⟨digits, written, rfl⟩
    · simp
    · simp [point, written.not_mem other]
  · rcases h.exponent with rfl | ⟨letter, sign, digits, rfl | rfl, rfl | rfl | rfl, written, rfl⟩
    · simp
    all_goals simp [plus, minus, lower, upper, written.not_mem other]

/-! ### Documents -/

namespace Document

mutual

/-- The value that a document stands for. -/
@[simp] def value : Document → Value
  | .null => .null
  | .bool b => .bool b
  | .number digits => .number digits.toList
  | .string text => .string (some text)
  | .array items => .array (values items)
  | .object fields => .object (fieldValues fields)

/-- The values that documents stand for. -/
@[simp] def values : List Document → List Value
  | [] => []
  | item :: items => value item :: values items

/-- The fields that documents under keys stand for. -/
@[simp] def fieldValues : List (String × Document) → List (Option String × Value)
  | [] => []
  | (key, item) :: fields => (some key, value item) :: fieldValues fields

end

mutual

/-- The numbers of a document are numbers. -/
def Sound : Document → Prop
  | .number digits => ∃ sign whole fraction exponent, IsNumber sign whole fraction exponent ∧
      digits.toList = sign ++ (whole ++ (fraction ++ exponent))
  | .array items => SoundItems items
  | .object fields => SoundFields fields
  | _ => True

/-- The numbers of documents are numbers. -/
def SoundItems : List Document → Prop
  | [] => True
  | item :: items => Sound item ∧ SoundItems items

/-- The numbers of documents under keys are numbers. -/
def SoundFields : List (String × Document) → Prop
  | [] => True
  | (_, item) :: fields => Sound item ∧ SoundFields fields

end

theorem layout_field (key : String) {v : Value} {text : List Char}
    (h : Layout (.value v) text) : Layout (.field key v) (literal key ++ ':' :: text) := by
  have whole := @Layout.key key _ _ _ _ _ .nil (spells_flatMap key.toList) .nil h.bare
  simpa [literal] using whole

mutual

/-- **A document on one line is a layout of its value.** -/
theorem layout_compact (d : Document) (sound : d.Sound) : Layout (.value d.value) d.compact := by
  match d with
  | .null => exact .null
  | .bool true => exact .true
  | .bool false => exact .false
  | .number digits =>
    obtain ⟨sign, whole, fraction, exponent, h, same⟩ := sound
    rw [value, compact, same]
    exact .number h
  | .string text => exact .string (spells_flatMap text.toList)
  | .array [] => exact .noItems .nil
  | .array (item :: items) => exact .array (layout_items (item :: items) (by simp) sound)
  | .object [] => exact .noFields .nil
  | .object (field :: fields) => exact .object (layout_fields (field :: fields) (by simp) sound)

theorem layout_items (items : List Document) (nonempty : items ≠ []) (sound : SoundItems items) :
    Layout (.items (values items)) (compactItems items) := by
  match items with
  | [] => exact absurd rfl nonempty
  | [item] => exact .item (layout_compact item sound.1).bare
  | item :: next :: items =>
    exact .items (layout_compact item sound.1).bare
      (layout_items (next :: items) (by simp) sound.2)

theorem layout_fields (fields : List (String × Document)) (nonempty : fields ≠ [])
    (sound : SoundFields fields) :
    Layout (.fields (fieldValues fields)) (compactFields fields) := by
  match fields with
  | [] => exact absurd rfl nonempty
  | [(key, item)] => exact .field (layout_field key (layout_compact item sound.1))
  | (key, item) :: next :: fields =>
    have whole := Layout.fields (layout_field key (layout_compact item sound.1))
      (layout_fields (next :: fields) (by simp) sound.2)
    simpa [compactFields, fieldValues] using whole

end

mutual

/-- **A document on one line is one line.** -/
theorem not_mem_compact (d : Document) (sound : d.Sound) : '\n' ∉ d.compact := by
  match d with
  | .null => decide
  | .bool true => decide
  | .bool false => decide
  | .number digits =>
    obtain ⟨sign, whole, fraction, exponent, h, same⟩ := sound
    rw [compact, same]
    exact h.not_mem (by decide) (by decide)
  | .string text => exact not_mem_literal text
  | .array items => simpa [compact] using not_mem_compactItems items sound
  | .object fields => simpa [compact] using not_mem_compactFields fields sound

theorem not_mem_compactItems (items : List Document) (sound : SoundItems items) :
    '\n' ∉ compactItems items := by
  match items with
  | [] => exact List.not_mem_nil
  | [item] => exact not_mem_compact item sound.1
  | item :: next :: items =>
    have first := not_mem_compact item sound.1
    have rest := not_mem_compactItems (next :: items) sound.2
    simp [compactItems, first, rest]

theorem not_mem_compactFields (fields : List (String × Document)) (sound : SoundFields fields) :
    '\n' ∉ compactFields fields := by
  match fields with
  | [] => exact List.not_mem_nil
  | [(key, item)] =>
    have first := not_mem_compact item sound.1
    simp [compactFields, not_mem_literal, first]
  | (key, item) :: next :: fields =>
    have first := not_mem_compact item sound.1
    have rest := not_mem_compactFields (next :: fields) sound.2
    simp [compactFields, not_mem_literal, first, rest]

end

/-- The reader reads what was printed. -/
theorem read?_compact (d : Document) (sound : d.Sound) : read? d.compact = some d.value :=
  read?_of_wording (layout_compact d sound).bare.wording

end Document

end Plotter.Json
