import Plotter.Proofs.Json.Wording

/-!
# Strings are read as they are spelled

Inside a string the reader has the characters that it is sure of, and perhaps half a pair that waits
for the other half. What it has made of a spelling so far (`Literal.Spelt`) says which text the
spelling has, if it has one.

## What is proved

* `Literal.Spelt.quotes`: a string that was read stood between its quotes as the grammar has it.
* `Quotes.spelt`: whatever stands between the quotes of a string is read as that string.
-/

namespace Plotter.Json

/-! ### Characters as 16-bit numbers -/

theorem isHighHalf_iff {unit : Nat} : isHighHalf unit = true ↔ 0xD800 ≤ unit ∧ unit ≤ 0xDBFF := by
  simp [isHighHalf]

theorem isLowHalf_iff {unit : Nat} : isLowHalf unit = true ↔ 0xDC00 ≤ unit ∧ unit ≤ 0xDFFF := by
  simp [isLowHalf]

/-- No character is one of the halves. -/
theorem isHalf_toNat (c : Char) : isHighHalf c.toNat = false ∧ isLowHalf c.toNat = false := by
  have whole : c.toNat < 0xD800 ∨ 0xDFFF < c.toNat := c.valid.imp_right And.left
  rw [← Bool.not_eq_true, ← Bool.not_eq_true, isHighHalf_iff, isLowHalf_iff]
  omega

/-- A number that is none of the halves is that of a character. -/
theorem toNat_ofNat {n : Nat} (small : n < 0x110000) (whole : n < 0xD800 ∨ 0xDFFF < n) :
    (Char.ofNat n).toNat = n := by
  rw [Char.toNat_ofNat, if_pos (whole.imp_right fun h => ⟨h, small⟩)]

theorem isHighHalf_highHalf (c : Char) : isHighHalf (highHalf c) = true := by
  have := toNat_lt c
  rw [isHighHalf_iff, highHalf]
  omega

theorem isLowHalf_lowHalf (c : Char) : isLowHalf (lowHalf c) = true := by
  rw [isLowHalf_iff, lowHalf]
  omega

theorem pairChar_halves {c : Char} (wide : 0x10000 ≤ c.toNat) :
    pairChar (highHalf c) (lowHalf c) = c := by
  have whole : 0x10000 + (highHalf c - 0xD800) * 0x400 + (lowHalf c - 0xDC00) = c.toNat := by
    unfold highHalf lowHalf
    omega
  exact (congrArg Char.ofNat whole).trans (Char.ofNat_toNat c)

/-- What two halves stand for is a character of more than 16 bits, and they are its halves. -/
theorem halves_pairChar {high low : Nat} (first : isHighHalf high = true)
    (second : isLowHalf low = true) :
    0x10000 ≤ (pairChar high low).toNat ∧ highHalf (pairChar high low) = high ∧
      lowHalf (pairChar high low) = low := by
  rw [isHighHalf_iff] at first
  rw [isLowHalf_iff] at second
  have number : (pairChar high low).toNat =
      0x10000 + (high - 0xD800) * 0x400 + (low - 0xDC00) :=
    toNat_ofNat (by omega) (by omega)
  unfold highHalf lowHalf
  omega

namespace Literal

/-- A number of 16 bits that is a character adds it. -/
theorem pushUnit_toNat (c : Char) (chars : List Char) :
    ({ chars } : Literal).pushUnit c.toNat = { chars := c :: chars } := by
  simp [pushUnit, isHalf_toNat]

theorem pushUnit_pair {high low : Nat} (first : isHighHalf high = true)
    (second : isLowHalf low = true) (chars : List Char) :
    (({ chars } : Literal).pushUnit high).pushUnit low = { chars := pairChar high low :: chars } := by
  simp [pushUnit, first, second]

/-- The halves of a character add it. -/
theorem pushUnit_halves {c : Char} (wide : 0x10000 ≤ c.toNat) (chars : List Char) :
    (({ chars } : Literal).pushUnit (highHalf c)).pushUnit (lowHalf c) = { chars := c :: chars } := by
  rw [pushUnit_pair (isHighHalf_highHalf c) (isLowHalf_lowHalf c), pairChar_halves wide]

theorem push_mk (c : Char) (chars : List Char) :
    ({ chars } : Literal).push c = { chars := c :: chars } := rfl

theorem text?_reverse (text : String) :
    ({ chars := text.toList.reverse } : Literal).text? = some text := by
  simp [text?]

end Literal

namespace State

variable {stack : List Frame}

/-! ### Every spelling is read -/

theorem hexValue?_of_toLower {c : Char} {n : Nat} (small : n < 16)
    (h : c.toLower = Text.hexDigit n) : hexValue? c = some n := by
  have lower : ∀ k : Fin 16, hexValue? (Text.hexDigit k) = some k.val := by decide +kernel
  by_cases upper : c.isUpper = true
  · have low : 65 ≤ c.toNat := (of_decide_eq_true upper).1
    have high : c.toNat ≤ 90 := (of_decide_eq_true upper).2
    have capitals : ∀ k : Fin 26, ∀ n : Fin 16,
        (Char.ofNat (65 + k)).toLower = Text.hexDigit n →
          hexValue? (Char.ofNat (65 + k)) = some n.val := by decide +kernel
    have same : Char.ofNat (65 + (c.toNat - 65)) = c := by
      rw [Nat.add_sub_cancel' low, Char.ofNat_toNat]
    have found := capitals ⟨c.toNat - 65, by omega⟩ ⟨n, small⟩
    dsimp only at found
    rw [same] at found
    exact found h
  · rw [Char.toLower_eq_of_not_isUpper upper] at h
    rw [h]
    exact lower ⟨n, small⟩

variable {purpose : Purpose}

/-- The digits of a 16-bit number are read as that number. -/
theorem run?_unit {unit : Nat} {digits : List Char} (small : unit < 0x10000)
    (h : UnitDigits unit digits) (literal : Literal) (rest : List Char) :
    run? ⟨stack, .string purpose literal .none⟩ ('\\' :: 'u' :: digits ++ rest) =
      run? ⟨stack, .string purpose (literal.pushUnit unit) .none⟩ rest := by
  obtain ⟨a, b, c, d, rfl⟩ : ∃ a b c d, digits = [a, b, c, d] := by
    have length : digits.length = 4 := by simpa using congrArg List.length h
    match digits, length with
    | [a, b, c, d], _ => exact ⟨a, b, c, d, rfl⟩
  simp only [UnitDigits, Text.hexDigits, List.map_cons, List.map_nil, List.nil_append,
    List.cons_append, List.cons.injEq, and_true] at h
  obtain ⟨first, second, third, fourth⟩ := h
  have first := hexValue?_of_toLower (Nat.mod_lt _ (by decide)) first
  have second := hexValue?_of_toLower (Nat.mod_lt _ (by decide)) second
  have third := hexValue?_of_toLower (Nat.mod_lt _ (by decide)) third
  have fourth := hexValue?_of_toLower (Nat.mod_lt _ (by decide)) fourth
  have value : 16 * (16 * (16 * (unit / 16 / 16 / 16 % 16) + unit / 16 / 16 % 16) +
      unit / 16 % 16) + unit % 16 = unit := by omega
  simp [run?_cons, step?, inString?, first, second, third, fourth, value]

/-- A character that needs no escape is added. -/
theorem run?_plain {c : Char} (unquote : c ≠ '"') (unescape : c ≠ '\\') (printed : 0x20 ≤ c.toNat)
    (literal : Literal) (rest : List Char) :
    run? ⟨stack, .string purpose literal .none⟩ (c :: rest) =
      run? ⟨stack, .string purpose (literal.push c) .none⟩ rest := by
  have step : step? ⟨stack, .string purpose literal .none⟩ c =
      some ⟨stack, .string purpose (literal.push c) .none⟩ := by
    simp [step?, inString?, unquote, unescape, Nat.not_lt.2 printed]
  rw [run?_cons, step, Option.bind_some]

/-- A letter adds the character that it stands for. -/
theorem run?_letter {l c : Char} (known : (l, c) ∈ letters) (literal : Literal)
    (rest : List Char) :
    run? ⟨stack, .string purpose literal .none⟩ ('\\' :: l :: rest) =
      run? ⟨stack, .string purpose (literal.push c) .none⟩ rest := by
  have escaped : l ≠ 'u' ∧ escaped? l = some c := by
    revert known
    simp only [letters, List.mem_cons, Prod.mk.injEq, List.not_mem_nil, or_false]
    rintro (⟨rfl, rfl⟩ | ⟨rfl, rfl⟩ | ⟨rfl, rfl⟩ | ⟨rfl, rfl⟩ | ⟨rfl, rfl⟩ | ⟨rfl, rfl⟩ |
      ⟨rfl, rfl⟩ | ⟨rfl, rfl⟩) <;> decide
  have backslash : step? ⟨stack, .string purpose literal .none⟩ '\\' =
      some ⟨stack, .string purpose literal .letter⟩ := rfl
  have step : step? ⟨stack, .string purpose literal .letter⟩ l =
      some ⟨stack, .string purpose (literal.push c) .none⟩ := by
    simp [step?, inString?, escaped]
  rw [run?_cons, backslash, Option.bind_some, run?_cons, step, Option.bind_some]

/-- A spelling adds its text to a literal. -/
theorem run?_spells {text spelling : List Char} (h : Spells text spelling) (chars : List Char) :
    run? ⟨stack, .string purpose { chars } .none⟩ spelling =
      some ⟨stack, .string purpose { chars := text.reverse ++ chars } .none⟩ := by
  induction h generalizing chars with
  | nil => rfl
  | @plain c text spelling unquote unescape printed rest ih =>
    rw [run?_plain unquote unescape printed, Literal.push_mk, ih]
    simp
  | @letter l c text spelling known rest ih =>
    rw [run?_letter known, Literal.push_mk, ih]
    simp
  | @unit c digits text spelling narrow written rest ih =>
    rw [run?_unit narrow written, Literal.pushUnit_toNat, ih]
    simp
  | @pair c high low text spelling wide first second rest ih =>
    rw [run?_unit (highHalf_lt c) first, run?_unit (lowHalf_lt c) second,
      Literal.pushUnit_halves wide, ih]
    simp

end State

/-! ### Every spelling that is read is in the grammar -/

theorem toLower_of_hexValue? {c : Char} {n : Nat} (h : hexValue? c = some n) :
    n < 16 ∧ c.toLower = Text.hexDigit n := by
  have all : ∀ k : Fin 128, ∀ m ∈ hexValue? (Char.ofNat k),
      m < 16 ∧ (Char.ofNat k).toLower = Text.hexDigit m := by decide +kernel
  have low : c.toNat < 128 := by
    by_contra high
    have above {d : Char} (small : d.toNat < 128) : ¬c ≤ d := fun below =>
      high (Nat.lt_of_le_of_lt below small)
    have digit : c.isDigit = false := by
      rw [Char.isDigit, Bool.and_eq_false_iff]
      exact .inr (decide_eq_false fun below => high (Nat.lt_of_le_of_lt below (by decide)))
    simp [hexValue?, digit, above (d := 'f') (by decide), above (d := 'F') (by decide)] at h
  have same := all ⟨c.toNat, low⟩ n
  simp only [Char.ofNat_toNat] at same
  exact same h

theorem mem_letters_of_escaped? {l c : Char} (h : escaped? l = some c) : (l, c) ∈ letters := by
  unfold escaped? at h
  split at h
  all_goals first
    | (obtain rfl := Option.some.inj h; decide)
    | simp at h

theorem Quotable.append {spelling more : List Char} (h : Quotable spelling) (h' : Quotable more) :
    Quotable (spelling ++ more) := by
  induction h with
  | nil => exact h'
  | plain unquote unescape printed rest ih => exact .plain unquote unescape printed ih
  | letter known rest ih => exact .letter known ih
  | unit narrow written rest ih => simpa using Quotable.unit narrow written ih

/-- What the reader has made of a spelling that ends outside an escape. -/
structure Literal.Spelt (l : Literal) (spelling : List Char) : Prop where
  quotable : Quotable spelling
  read : ∀ stack purpose, State.run? ⟨stack, .string purpose {} .none⟩ spelling =
    some ⟨stack, .string purpose l .none⟩
  /-- It has the text. -/
  whole : l.broken = false → l.half = none → Spells l.chars.reverse spelling
  /-- It has the text but for a half that was read last. -/
  halved : ∀ high, l.broken = false → l.half = some high → ∃ front digits,
    spelling = front ++ '\\' :: 'u' :: digits ∧ isHighHalf high = true ∧ UnitDigits high digits ∧
      Spells l.chars.reverse front

namespace Literal.Spelt

variable {l : Literal} {spelling : List Char}

theorem nil : ({} : Literal).Spelt [] :=
  ⟨.nil, fun _ _ => rfl, fun _ _ => .nil, fun _ _ half => by simp at half⟩

/-- A character more, in one of the ways in which it may be spelled by itself. -/
theorem push {c : Char} {sign : List Char} (h : l.Spelt spelling) (spelled : Spells [c] sign)
    (read : ∀ stack purpose, State.run? ⟨stack, .string purpose l .none⟩ sign =
      some ⟨stack, .string purpose (l.push c) .none⟩) : (l.push c).Spelt (spelling ++ sign) := by
  refine ⟨h.quotable.append spelled.quotable, fun stack purpose => ?_, fun sound _ => ?_,
    fun _ _ half => by simp [Literal.push] at half⟩
  · rw [State.run?_append, h.read, Option.bind_some, read]
  · obtain ⟨sound, alone⟩ : l.broken = false ∧ l.half = none := by
      simpa [Literal.push] using sound
    simpa [Literal.push] using (h.whole sound alone).append spelled

theorem plain {c : Char} (h : l.Spelt spelling) (unquote : c ≠ '"') (unescape : c ≠ '\\')
    (printed : 0x20 ≤ c.toNat) : (l.push c).Spelt (spelling ++ [c]) :=
  h.push (.plain unquote unescape printed .nil) fun _ _ =>
    State.run?_plain unquote unescape printed l []

theorem letter {letter c : Char} (h : l.Spelt spelling) (known : (letter, c) ∈ letters) :
    (l.push c).Spelt (spelling ++ ['\\', letter]) :=
  h.push (.letter known .nil) fun _ _ => State.run?_letter known l []

/-- Nothing more is said once a half has been left alone. -/
theorem of_broken (quotable : Quotable spelling)
    (read : ∀ stack purpose, State.run? ⟨stack, .string purpose {} .none⟩ spelling =
      some ⟨stack, .string purpose l .none⟩) (broken : l.broken = true) : l.Spelt spelling :=
  ⟨quotable, read, fun sound => by simp [broken] at sound, fun _ sound => by simp [broken] at sound⟩

/-- A number of 16 bits more. It may be a character, a half that waits, the half that was waited
for, or a half that is left alone. -/
theorem pushUnit {unit : Nat} {digits : List Char} (h : l.Spelt spelling) (narrow : unit < 0x10000)
    (written : UnitDigits unit digits) :
    (l.pushUnit unit).Spelt (spelling ++ '\\' :: 'u' :: digits) := by
  have quotable : Quotable (spelling ++ '\\' :: 'u' :: digits) := by
    simpa using h.quotable.append (.unit narrow written .nil)
  have read (stack : List Frame) (purpose : Purpose) :
      State.run? ⟨stack, .string purpose {} .none⟩ (spelling ++ '\\' :: 'u' :: digits) =
        some ⟨stack, .string purpose (l.pushUnit unit) .none⟩ := by
    have pushed : State.run? ⟨stack, .string purpose l .none⟩ ('\\' :: 'u' :: digits ++ []) = _ :=
      State.run?_unit narrow written l []
    rw [List.append_nil] at pushed
    rw [State.run?_append, h.read, Option.bind_some, pushed]
    rfl
  cases half : l.half with
  | some high =>
    by_cases low : isLowHalf unit = true
    · have pushed :
          l.pushUnit unit = { l with chars := pairChar high unit :: l.chars, half := none } := by
        simp [Literal.pushUnit, half, low]
      refine ⟨quotable, read, fun sound _ => ?_, fun _ _ waits => by simp [pushed] at waits⟩
      rw [pushed] at sound ⊢
      obtain ⟨front, before, rfl, first, waited, spelled⟩ := h.halved high sound half
      obtain ⟨wide, first, second⟩ := halves_pairChar first low
      rw [← first] at waited
      rw [← second] at written
      simpa using spelled.append (.pair wide waited written .nil)
    · exact of_broken quotable read (by simp [Literal.pushUnit, half, low])
  | none =>
    by_cases high : isHighHalf unit = true
    · have pushed : l.pushUnit unit = { l with half := some unit } := by
        simp [Literal.pushUnit, half, high]
      refine ⟨quotable, read, fun _ alone => by simp [pushed] at alone, fun waited sound same => ?_⟩
      rw [pushed] at sound same ⊢
      obtain rfl : unit = waited := Option.some.inj same
      exact ⟨spelling, digits, rfl, high, written, h.whole sound half⟩
    · by_cases low : isLowHalf unit = true
      · exact of_broken quotable read (by simp [Literal.pushUnit, half, high, low])
      · have pushed : l.pushUnit unit = { l with chars := Char.ofNat unit :: l.chars } := by
          simp [Literal.pushUnit, half, high, low]
        have same : (Char.ofNat unit).toNat = unit := by
          rw [isHighHalf_iff] at high
          rw [isLowHalf_iff] at low
          exact toNat_ofNat (by omega) (by omega)
        refine ⟨quotable, read, fun sound _ => ?_, fun _ _ waits => by simp [pushed, half] at waits⟩
        rw [pushed] at sound ⊢
        rw [← same] at narrow written
        simpa using (h.whole sound half).append (.unit narrow written .nil)

/-- Whatever may stand between quotes is read. -/
theorem more {more : List Char} (quotable : Quotable more) (h : l.Spelt spelling) :
    ∃ l' : Literal, l'.Spelt (spelling ++ more) := by
  induction quotable generalizing l spelling with
  | nil => exact ⟨l, by simpa using h⟩
  | plain unquote unescape printed rest ih => simpa using ih (h.plain unquote unescape printed)
  | letter known rest ih => simpa using ih (h.letter known)
  | unit narrow written rest ih => simpa using ih (h.pushUnit narrow written)

/-- A spelling of a text is read as that text. -/
theorem text?_of_spells {text : String} (h : l.Spelt spelling)
    (spelled : Spells text.toList spelling) : l.text? = some text := by
  have read : State.run? ⟨[], .string .value {} .none⟩ spelling = _ :=
    State.run?_spells spelled []
  have other := h.read [] .value
  rw [read] at other
  simp only [Option.some.injEq, State.mk.injEq, Mode.string.injEq, true_and, and_true] at other
  rw [← other, List.append_nil, Literal.text?_reverse]

/-- What is read as a text is a spelling of it. -/
theorem spells_of_text? {text : String} (h : l.Spelt spelling) (same : l.text? = some text) :
    Spells text.toList spelling := by
  have sound : ¬(l.broken || l.half.isSome) = true := by
    intro unsound
    simp [Literal.text?, unsound] at same
  obtain ⟨whole, alone⟩ : l.broken = false ∧ l.half = none := by simpa using sound
  obtain rfl : String.ofList l.chars.reverse = text := by
    simpa [Literal.text?, whole, alone] using same
  simpa using h.whole whole alone

/-- **A string that was read stood between its quotes as the grammar has it.** -/
theorem quotes (h : l.Spelt spelling) : Quotes l.text? spelling := by
  cases same : l.text? with
  | some text => exact .text (h.spells_of_text? same)
  | none =>
    refine .textless h.quotable fun text spelled => ?_
    have known : l.text? = some (String.ofList text) :=
      h.text?_of_spells (by simpa using spelled)
    rw [same] at known
    simp at known

end Literal.Spelt

/-- **Whatever stands between the quotes of a string is read as that string.** -/
theorem Quotes.spelt {text : Option String} {spelling : List Char} (h : Quotes text spelling) :
    ∃ l : Literal, l.Spelt spelling ∧ l.text? = text := by
  have read (quotable : Quotable spelling) : ∃ l : Literal, l.Spelt spelling := by
    simpa using Literal.Spelt.nil.more quotable
  cases h with
  | text spelled =>
    obtain ⟨l, spelt⟩ := read spelled.quotable
    exact ⟨l, spelt, spelt.text?_of_spells spelled⟩
  | textless quotable silent =>
    obtain ⟨l, spelt⟩ := read quotable
    refine ⟨l, spelt, ?_⟩
    by_contra some
    obtain ⟨text, same⟩ := Option.ne_none_iff_exists'.1 some
    exact silent _ (spelt.spells_of_text? same)

/-! ### Escapes -/

/-- What has been read of an escape. -/
inductive Escape.Pending : Escape → List Char → Prop
  | none : Pending .none []
  | letter : Pending .letter ['\\']
  | digits {unit owed count : Nat} {digits : List Char} (narrow : unit < 16 ^ count)
      (written : digits.map Char.toLower = Text.hexDigits count unit) (owes : count + owed = 3) :
      Pending (.digits unit owed) ('\\' :: 'u' :: digits)

/-- What has been read of a string after its first quote. -/
def Quoting (literal : Literal) (escape : Escape) (spelling : List Char) : Prop :=
  ∃ front back, spelling = front ++ back ∧ literal.Spelt front ∧ escape.Pending back

theorem quoting_nil : Quoting {} .none [] := ⟨[], [], rfl, .nil, .none⟩

theorem Literal.Spelt.quoting {l : Literal} {spelling : List Char} (h : l.Spelt spelling) :
    Quoting l .none spelling := ⟨spelling, [], (List.append_nil _).symm, h, .none⟩

theorem Quoting.spelt {l : Literal} {spelling : List Char} (h : Quoting l .none spelling) :
    l.Spelt spelling := by
  obtain ⟨front, back, rfl, spelt, pending⟩ := h
  cases pending
  simpa using spelt

/-- A digit more. -/
theorem map_toLower_concat {c : Char} {count unit digit : Nat} {digits : List Char}
    (written : digits.map Char.toLower = Text.hexDigits count unit)
    (known : hexValue? c = some digit) :
    (digits ++ [c]).map Char.toLower = Text.hexDigits (count + 1) (16 * unit + digit) := by
  obtain ⟨small, same⟩ := toLower_of_hexValue? known
  have front : (16 * unit + digit) / 16 = unit := by omega
  have last : (16 * unit + digit) % 16 = digit := by omega
  rw [List.map_append, written, List.map_singleton, same, Text.hexDigits, front, last]

/-- **A character inside a string** ends it, or is one more that the grammar has there. -/
theorem Quoting.inString? {stack : List Frame} {purpose : Purpose} {literal : Literal}
    {escape : Escape} {spelling : List Char} {c : Char} {s : State}
    (h : Quoting literal escape spelling)
    (next : State.inString? stack purpose literal escape c = some s) :
    (escape = .none ∧ c = '"' ∧ s = State.closeString stack literal purpose) ∨
      ∃ literal' escape', s = ⟨stack, .string purpose literal' escape'⟩ ∧
        Quoting literal' escape' (spelling ++ [c]) := by
  obtain ⟨front, back, rfl, spelt, pending⟩ := h
  cases pending with
  | none =>
    rw [List.append_nil]
    simp only [State.inString?] at next
    split_ifs at next with quote backslash control
    · exact .inl ⟨rfl, quote, (Option.some.inj next).symm⟩
    · obtain rfl := Option.some.inj next
      subst backslash
      exact .inr ⟨_, _, rfl, front, ['\\'], rfl, spelt, .letter⟩
    · obtain rfl := Option.some.inj next
      exact .inr ⟨_, _, rfl, (spelt.plain quote backslash (Nat.not_lt.1 control)).quoting⟩
  | letter =>
    refine .inr ?_
    rw [List.append_assoc, List.singleton_append]
    simp only [State.inString?] at next
    split_ifs at next with unit
    · obtain rfl := Option.some.inj next
      subst unit
      have narrow : 0 < 16 ^ 0 := by decide
      exact ⟨_, _, rfl, front, ['\\', 'u'], rfl, spelt, .digits narrow rfl rfl⟩
    · obtain ⟨e, known, rfl⟩ := Option.map_eq_some_iff.1 next
      exact ⟨_, _, rfl, (spelt.letter (mem_letters_of_escaped? known)).quoting⟩
  | @digits unit owed count digits narrow written owes =>
    refine .inr ?_
    obtain ⟨digit, known, rfl⟩ := Option.map_eq_some_iff.1 next
    have small := (toLower_of_hexValue? known).1
    have longer := map_toLower_concat written known
    rw [List.append_assoc, List.cons_append, List.cons_append]
    have narrow : 16 * unit + digit < 16 ^ (count + 1) := by
      rw [Nat.pow_succ]
      omega
    cases owed with
    | zero =>
      obtain rfl : count = 3 := owes
      exact ⟨_, _, rfl, (spelt.pushUnit narrow longer).quoting⟩
    | succ owed =>
      exact ⟨_, _, rfl, front, _, rfl, spelt, .digits narrow longer (by omega)⟩

end Plotter.Json
