import Plotter.Text.Utf8

/-!
# What the reader of UTF-8 accepts

The reader goes through bytes once, with at most one sequence under way. What it makes of the bytes
that are still to come depends on that sequence alone (`piecesFrom`), so the bytes of one character
can be looked at by themselves: they are read as that character, whatever follows them, and no other
bytes are.

## What is proved

* `Text.Utf8.decode_eq_ok_iff`: bytes are read as a text just in case they are its encoding. So bytes
  that are the encoding of no text are refused.
-/

namespace Plotter.Text.Utf8

/-- The bytes that stand for a text. -/
def encode (text : List Char) : List UInt8 := text.flatMap String.utf8EncodeChar

/-- The pieces of the bytes that come after the beginning of a sequence. -/
def piecesFrom (under : Option Sequence) (bytes : List UInt8) : List Piece :=
  (bytes.foldl Reading.step ⟨[], under⟩).finish.reverse

/-! ### Pieces read before -/

/-- A reading with pieces that were read before. -/
def Reading.on (r : Reading) (before : List Piece) : Reading :=
  { r with pieces := r.pieces ++ before }

theorem Reading.begin_on (before : List Piece) (b : Nat) :
    Reading.begin before b = (Reading.begin [] b).on before := by
  unfold Reading.begin
  split <;> rfl

theorem Reading.step_on (r : Reading) (before : List Piece) (byte : UInt8) :
    (r.on before).step byte = (r.step byte).on before := by
  obtain ⟨pieces, under⟩ := r
  cases under with
  | none =>
    simp only [Reading.step, Reading.on]
    rw [begin_on, begin_on pieces]
    simp [Reading.on]
  | some s =>
    simp only [Reading.step, Reading.on]
    split
    · split <;> rfl
    · rw [begin_on, begin_on (Piece.broken s.size :: pieces)]
      simp [Reading.on]

theorem Reading.finish_foldl_on (r : Reading) (before : List Piece) (bytes : List UInt8) :
    (bytes.foldl Reading.step (r.on before)).finish =
      (bytes.foldl Reading.step r).finish ++ before := by
  induction bytes generalizing r with
  | nil =>
    obtain ⟨pieces, under⟩ := r
    cases under <;> rfl
  | cons byte bytes ih => rw [List.foldl_cons, step_on, ih, List.foldl_cons]

/-- The pieces of a byte come before those of the bytes after it. -/
theorem piecesFrom_cons (under : Option Sequence) (byte : UInt8) (bytes : List UInt8) :
    piecesFrom under (byte :: bytes) =
      (Reading.step ⟨[], under⟩ byte).pieces.reverse ++
        piecesFrom (Reading.step ⟨[], under⟩ byte).under bytes := by
  have split : Reading.step ⟨[], under⟩ byte =
      Reading.on ⟨[], (Reading.step ⟨[], under⟩ byte).under⟩
        (Reading.step ⟨[], under⟩ byte).pieces := rfl
  rw [piecesFrom, List.foldl_cons, split, Reading.finish_foldl_on, List.reverse_append]
  rfl

/-! ### One byte -/

theorem piecesFrom_begin (byte : UInt8) (bytes : List UInt8) :
    piecesFrom none (byte :: bytes) =
      match first byte.toNat with
      | .inl piece => piece :: piecesFrom none bytes
      | .inr s => piecesFrom (some s) bytes := by
  rw [piecesFrom_cons]
  simp only [Reading.step, Reading.begin]
  cases first byte.toNat <;> rfl

/-- The next byte of a sequence goes on with it, or breaks it off. -/
theorem piecesFrom_next (s : Sequence) (byte : UInt8) (bytes : List UInt8) :
    piecesFrom (some s) (byte :: bytes) =
      if s.low ≤ byte.toNat ∧ byte.toNat ≤ s.high then
        if s.owed = 1 then
          .char (Char.ofNat (s.bits * 0x40 + byte.toNat % 0x40)) :: piecesFrom none bytes
        else
          piecesFrom
            (some ⟨s.size + 1, s.bits * 0x40 + byte.toNat % 0x40, s.owed - 1, 0x80, 0xBF⟩) bytes
      else .broken s.size :: piecesFrom none (byte :: bytes) := by
  rw [piecesFrom_cons]
  simp only [Reading.step]
  split
  · split <;> rfl
  · rw [Reading.begin_on, piecesFrom_cons]
    simp [Reading.on, Reading.step]

/-- What the first byte of a sequence says about the sequence. -/
theorem first_one {b : Nat} (h : b ≤ 0x7F) : first b = .inl (.char (Char.ofNat b)) := if_pos h

theorem first_two {b : Nat} (h : 0xC2 ≤ b ∧ b ≤ 0xDF) :
    first b = .inr ⟨1, b % 0x20, 1, 0x80, 0xBF⟩ := by
  rw [first, if_neg (by omega), if_pos h]

theorem first_three {b : Nat} (h : 0xE0 ≤ b ∧ b ≤ 0xEF) :
    first b = .inr
      ⟨1, b % 0x10, 2, if b = 0xE0 then 0xA0 else 0x80, if b = 0xED then 0x9F else 0xBF⟩ := by
  rw [first, if_neg (by omega), if_neg (by omega)]
  grind

theorem first_four {b : Nat} (h : 0xF0 ≤ b ∧ b ≤ 0xF4) :
    first b = .inr
      ⟨1, b % 0x8, 3, if b = 0xF0 then 0x90 else 0x80, if b = 0xF4 then 0x8F else 0xBF⟩ := by
  rw [first, if_neg (by omega), if_neg (by omega), if_neg (by omega), if_neg (by omega),
    if_neg (by omega)]
  grind

/-- Every other byte begins no character. -/
theorem first_other {b : Nat} (one : ¬b ≤ 0x7F) (two : ¬(0xC2 ≤ b ∧ b ≤ 0xDF))
    (three : ¬(0xE0 ≤ b ∧ b ≤ 0xEF)) (four : ¬(0xF0 ≤ b ∧ b ≤ 0xF4)) :
    first b = .inl (.broken 1) := by
  unfold first
  grind

/-! ### One character -/

/-- A number that a character may have is the number of one. -/
theorem toNat_ofNat {n : Nat} (valid : n < 0xD800 ∨ 0xDFFF < n ∧ n < 0x110000) :
    (Char.ofNat n).val.toNat = n := by
  have isValid : n.isValidChar := valid
  rw [Char.ofNat, dif_pos isValid]
  rfl

theorem toNat_byte {n : Nat} (h : n ≤ 0xFF) : (UInt8.ofNat n).toNat = n :=
  UInt8.toNat_ofNat_of_lt' (Nat.lt_succ_of_le h)

/-- **The bytes of a character are read as that character**, whatever follows them. -/
theorem piecesFrom_encodeChar (c : Char) (rest : List UInt8) :
    piecesFrom none (String.utf8EncodeChar c ++ rest) = .char c :: piecesFrom none rest := by
  have valid : c.val.toNat < 0xD800 ∨ 0xDFFF < c.val.toNat ∧ c.val.toNat < 0x110000 := c.valid
  have own : Char.ofNat c.val.toNat = c := Char.ofNat_toNat c
  simp only [String.utf8EncodeChar]
  generalize c.val.toNat = v at valid own
  -- The cases are the numbers of bytes. In each the bits of the bytes make up the number again.
  by_cases one : v ≤ 0x7F
  · rw [if_pos one, List.singleton_append, piecesFrom_begin, toNat_byte (by omega), first_one one,
      own]
  rw [if_neg one]
  by_cases two : v ≤ 0x7FF
  · have bits : (v / 64 % 32 + 192) % 0x20 * 0x40 + (v % 64 + 128) % 0x40 = v := by omega
    rw [if_pos two, List.cons_append, piecesFrom_begin, toNat_byte (by omega),
      first_two (by omega)]
    dsimp only
    rw [List.singleton_append, piecesFrom_next, toNat_byte (by omega),
      if_pos (by dsimp only; omega), if_pos rfl, bits, own]
  rw [if_neg two]
  by_cases three : v ≤ 0xFFFF
  · have bits : ((v / 4096 % 16 + 224) % 0x10 * 0x40 + (v / 64 % 64 + 128) % 0x40) * 0x40 +
        (v % 64 + 128) % 0x40 = v := by omega
    rw [if_pos three, List.cons_append, piecesFrom_begin, toNat_byte (by omega),
      first_three (by omega)]
    dsimp only
    rw [List.cons_append, piecesFrom_next, toNat_byte (by omega),
      if_pos (by dsimp only; split <;> split <;> omega), if_neg (by simp)]
    dsimp only
    rw [List.singleton_append, piecesFrom_next, toNat_byte (by omega),
      if_pos (by dsimp only; omega), if_pos rfl, bits, own]
  · have bits : (((v / 262144 % 8 + 240) % 0x8 * 0x40 + (v / 4096 % 64 + 128) % 0x40) * 0x40 +
        (v / 64 % 64 + 128) % 0x40) * 0x40 + (v % 64 + 128) % 0x40 = v := by omega
    rw [if_neg three, List.cons_append, piecesFrom_begin, toNat_byte (by omega),
      first_four (by omega)]
    dsimp only
    rw [List.cons_append, piecesFrom_next, toNat_byte (by omega),
      if_pos (by dsimp only; split <;> split <;> omega), if_neg (by simp)]
    dsimp only
    rw [List.cons_append, piecesFrom_next, toNat_byte (by omega),
      if_pos (by dsimp only; omega), if_neg (by simp)]
    dsimp only
    rw [List.singleton_append, piecesFrom_next, toNat_byte (by omega),
      if_pos (by dsimp only; omega), if_pos rfl, bits, own]

/-- A sequence that becomes a character goes on with the next byte. -/
theorem exists_of_under {s : Sequence} {bytes : List UInt8} {c : Char} {pieces : List Piece}
    (h : piecesFrom (some s) bytes = .char c :: pieces) :
    ∃ byte rest, bytes = byte :: rest ∧ (s.low ≤ byte.toNat ∧ byte.toNat ≤ s.high) ∧
      if s.owed = 1 then
        Char.ofNat (s.bits * 0x40 + byte.toNat % 0x40) = c ∧ piecesFrom none rest = pieces
      else
        piecesFrom
          (some ⟨s.size + 1, s.bits * 0x40 + byte.toNat % 0x40, s.owed - 1, 0x80, 0xBF⟩) rest =
            .char c :: pieces := by
  cases bytes with
  | nil => simp [piecesFrom, Reading.finish] at h
  | cons byte rest =>
    rw [piecesFrom_next] at h
    by_cases within : s.low ≤ byte.toNat ∧ byte.toNat ≤ s.high
    · refine ⟨byte, rest, rfl, within, ?_⟩
      rw [if_pos within] at h
      split
      · rename_i last
        rw [if_pos last, List.cons.injEq, Piece.char.injEq] at h
        exact h
      · rename_i more
        rwa [if_neg more] at h
    · simp [if_neg within] at h

theorem byte_eq {n : Nat} {b : UInt8} (h : n = b.toNat) : UInt8.ofNat n = b := by
  rw [h, UInt8.ofNat_toNat]

/-- **Only the bytes of a character are read as that character.** -/
theorem exists_of_char {bytes : List UInt8} {c : Char} {pieces : List Piece}
    (h : piecesFrom none bytes = .char c :: pieces) :
    ∃ rest, bytes = String.utf8EncodeChar c ++ rest ∧ piecesFrom none rest = pieces := by
  cases bytes with
  | nil => simp [piecesFrom, Reading.finish] at h
  | cons b₀ bytes =>
    rw [piecesFrom_begin] at h
    by_cases one : b₀.toNat ≤ 0x7F
    · rw [first_one one, List.cons.injEq, Piece.char.injEq] at h
      obtain ⟨rfl, rest⟩ := h
      refine ⟨bytes, ?_, rest⟩
      simp only [String.utf8EncodeChar]
      rw [toNat_ofNat (by omega), if_pos one, byte_eq rfl, List.singleton_append]
    by_cases two : 0xC2 ≤ b₀.toNat ∧ b₀.toNat ≤ 0xDF
    · rw [first_two two] at h
      obtain ⟨b₁, rest, rfl, within, rfl, read⟩ := exists_of_under h
      dsimp only at within ⊢
      refine ⟨rest, ?_, read⟩
      simp only [String.utf8EncodeChar]
      rw [toNat_ofNat (by omega), if_neg (by omega), if_pos (by omega), byte_eq (b := b₀) (by omega),
        byte_eq (b := b₁) (by omega)]
      rfl
    by_cases three : 0xE0 ≤ b₀.toNat ∧ b₀.toNat ≤ 0xEF
    · rw [first_three three] at h
      obtain ⟨b₁, bytes, rfl, within, h⟩ := exists_of_under h
      obtain ⟨b₂, rest, rfl, within', rfl, read⟩ := exists_of_under h
      -- The bounds of the second byte keep out numbers that are too short, and surrogates.
      have low : 0x80 ≤ b₁.toNat ∧ (b₀.toNat = 0xE0 → 0xA0 ≤ b₁.toNat) := by grind
      have high : b₁.toNat ≤ 0xBF ∧ (b₀.toNat = 0xED → b₁.toNat ≤ 0x9F) := by grind
      dsimp only at within' ⊢
      refine ⟨rest, ?_, read⟩
      simp only [String.utf8EncodeChar]
      rw [toNat_ofNat (by omega), if_neg (by omega), if_neg (by omega), if_pos (by omega),
        byte_eq (b := b₀) (by omega), byte_eq (b := b₁) (by omega), byte_eq (b := b₂) (by omega)]
      rfl
    by_cases four : 0xF0 ≤ b₀.toNat ∧ b₀.toNat ≤ 0xF4
    · rw [first_four four] at h
      obtain ⟨b₁, bytes, rfl, within, h⟩ := exists_of_under h
      obtain ⟨b₂, bytes, rfl, within', h⟩ := exists_of_under h
      obtain ⟨b₃, rest, rfl, within'', rfl, read⟩ := exists_of_under h
      have low : 0x80 ≤ b₁.toNat ∧ (b₀.toNat = 0xF0 → 0x90 ≤ b₁.toNat) := by grind
      have high : b₁.toNat ≤ 0xBF ∧ (b₀.toNat = 0xF4 → b₁.toNat ≤ 0x8F) := by grind
      dsimp only at within' within'' ⊢
      refine ⟨rest, ?_, read⟩
      simp only [String.utf8EncodeChar]
      rw [toNat_ofNat (by omega), if_neg (by omega), if_neg (by omega), if_neg (by omega),
        byte_eq (b := b₀) (by omega), byte_eq (b := b₁) (by omega), byte_eq (b := b₂) (by omega),
        byte_eq (b := b₃) (by omega)]
      rfl
    · simp [first_other one two three four] at h

/-! ### Texts -/

theorem encode_cons (c : Char) (text : List Char) :
    encode (c :: text) = String.utf8EncodeChar c ++ encode text := List.flatMap_cons ..

/-- A sequence that was begun comes to something. -/
theorem piecesFrom_some_ne_nil (s : Sequence) (bytes : List UInt8) :
    piecesFrom (some s) bytes ≠ [] := by
  induction bytes generalizing s with
  | nil => simp [piecesFrom, Reading.finish]
  | cons byte bytes ih =>
    rw [piecesFrom_next]
    split
    · split
      · simp
      · exact ih _
    · simp

/-- The pieces of bytes are the characters of a text just in case the bytes are its encoding. -/
theorem pieces_eq_iff (bytes : List UInt8) (text : List Char) :
    pieces bytes = text.map .char ↔ encode text = bytes := by
  change piecesFrom none bytes = _ ↔ _
  induction text generalizing bytes with
  | nil =>
    constructor
    · intro empty
      cases bytes with
      | nil => rfl
      | cons byte bytes =>
        rw [piecesFrom_begin] at empty
        split at empty
        · simp at empty
        · exact absurd empty (piecesFrom_some_ne_nil _ bytes)
    · rintro rfl
      rfl
  | cons c text ih =>
    rw [encode_cons, List.map_cons]
    constructor
    · intro read
      obtain ⟨rest, rfl, after⟩ := exists_of_char read
      rw [(ih rest).1 after]
    · rintro rfl
      rw [piecesFrom_encodeChar, (ih _).2 rfl]

theorem strictAfter_eq_ok_iff (before : List Char) (offset : Nat) (ps : List Piece)
    (text : List Char) :
    strictAfter before offset ps = .ok text ↔
      ∃ rest, ps = rest.map .char ∧ text = before.reverse ++ rest := by
  induction ps generalizing before offset with
  | nil => simp [strictAfter, eq_comm]
  | cons piece ps ih =>
    cases piece with
    | char c =>
      rw [strictAfter, ih]
      constructor
      · rintro ⟨rest, rfl, rfl⟩
        exact ⟨c :: rest, rfl, by simp⟩
      · rintro ⟨rest, same, rfl⟩
        cases rest with
        | nil => simp at same
        | cons c' rest =>
          rw [List.map_cons, List.cons.injEq, Piece.char.injEq] at same
          obtain ⟨rfl, rfl⟩ := same
          exact ⟨rest, rfl, by simp⟩
    | broken size =>
      simp only [strictAfter, reduceCtorEq, false_iff, not_exists]
      rintro (_ | ⟨c, rest⟩) <;> simp
    | unfinished size =>
      simp only [strictAfter, reduceCtorEq, false_iff, not_exists]
      rintro (_ | ⟨c, rest⟩) <;> simp

/-- **What the strict reader accepts.** Bytes are read as a text just in case they are its
encoding. -/
theorem decode_eq_ok_iff (bytes : List UInt8) (text : List Char) :
    decode bytes = .ok text ↔ encode text = bytes := by
  rw [decode, strictAfter_eq_ok_iff, ← pieces_eq_iff]
  simp

end Plotter.Text.Utf8
