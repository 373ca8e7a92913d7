/-!
# Reading UTF-8

Bytes are read as a sequence of pieces: whole characters, and broken sequences. A
sequence is broken at the first byte that no character continues with, and that
byte begins the next piece; so a broken sequence is as long as it could be the
beginning of a character. The same pieces serve two readers: a strict one, which
names the first broken piece and where it stands, and a lenient one, which puts the
replacement character in the place of each.
-/

namespace Plotter.Text.Utf8

/-- What a run of bytes amounts to. -/
inductive Piece
  /-- A whole character. -/
  | char (c : Char)
  /-- So many bytes that no further byte could make a character of. -/
  | broken (size : Nat)
  /-- So many bytes of a character whose end is missing. -/
  | unfinished (size : Nat)
  deriving Repr, DecidableEq

/-- A sequence under way: its bytes so far, the bits they hold, how many bytes are
still owed, and the bounds of the next one. -/
structure Sequence where
  size : Nat
  bits : Nat
  owed : Nat
  low : Nat
  high : Nat
  deriving Repr, DecidableEq

/-- What the first byte of a sequence amounts to. The bounds of the second byte keep
out overlong forms, surrogates and numbers above the last code point. -/
def first (b : Nat) : Piece ⊕ Sequence :=
  if b ≤ 0x7F then .inl (.char (Char.ofNat b))
  else if 0xC2 ≤ b ∧ b ≤ 0xDF then .inr ⟨1, b % 0x20, 1, 0x80, 0xBF⟩
  else if b = 0xE0 then .inr ⟨1, b % 0x10, 2, 0xA0, 0xBF⟩
  else if b = 0xED then .inr ⟨1, b % 0x10, 2, 0x80, 0x9F⟩
  else if 0xE1 ≤ b ∧ b ≤ 0xEF then .inr ⟨1, b % 0x10, 2, 0x80, 0xBF⟩
  else if b = 0xF0 then .inr ⟨1, b % 0x8, 3, 0x90, 0xBF⟩
  else if 0xF1 ≤ b ∧ b ≤ 0xF3 then .inr ⟨1, b % 0x8, 3, 0x80, 0xBF⟩
  else if b = 0xF4 then .inr ⟨1, b % 0x8, 3, 0x80, 0x8F⟩
  else .inl (.broken 1)

/-- The pieces read so far, latest first, and the sequence under way. -/
structure Reading where
  pieces : List Piece := []
  under : Option Sequence := none

/-- Read the first byte of a sequence. -/
def Reading.begin (pieces : List Piece) (b : Nat) : Reading :=
  match first b with
  | .inl piece => { pieces := piece :: pieces }
  | .inr sequence => { pieces, under := some sequence }

/-- Read one byte. -/
def Reading.step (r : Reading) (byte : UInt8) : Reading :=
  let b := byte.toNat
  match r.under with
  | none => .begin r.pieces b
  | some s =>
    if s.low ≤ b ∧ b ≤ s.high then
      let bits := s.bits * 0x40 + b % 0x40
      if s.owed = 1 then { pieces := .char (Char.ofNat bits) :: r.pieces }
      else { r with under := some ⟨s.size + 1, bits, s.owed - 1, 0x80, 0xBF⟩ }
    else .begin (.broken s.size :: r.pieces) b

/-- The pieces, latest first, when no byte is left. -/
def Reading.finish (r : Reading) : List Piece :=
  match r.under with
  | none => r.pieces
  | some s => .unfinished s.size :: r.pieces

/-- The pieces of a run of bytes, in order. -/
def pieces (bytes : List UInt8) : List Piece :=
  (bytes.foldl Reading.step {}).finish.reverse

/-- What the strict reader stops at: a broken sequence of so many bytes, or an
unfinished one, and the number of bytes before it. -/
structure Fault where
  offset : Nat
  size : Option Nat
  deriving Repr, DecidableEq

/-- The words for a fault. -/
def Fault.message (f : Fault) : String :=
  match f.size with
  | some size =>
    "invalid utf-8 sequence of " ++ toString size ++ " bytes from index " ++ toString f.offset
  | none => "incomplete utf-8 byte sequence from index " ++ toString f.offset

/-- The text of the pieces, or the first fault; `text` holds the characters before
(latest first) and `offset` their bytes. -/
def strictAfter (text : List Char) (offset : Nat) : List Piece → Except Fault (List Char)
  | [] => .ok text.reverse
  | .char c :: rest => strictAfter (c :: text) (offset + c.utf8Size) rest
  | .broken size :: _ => .error ⟨offset, some size⟩
  | .unfinished _ :: _ => .error ⟨offset, none⟩

/-- The text that the bytes stand for, or the first place where they stand for none. -/
def decode (bytes : List UInt8) : Except Fault (List Char) := strictAfter [] 0 (pieces bytes)

/-- The character that stands for a broken piece. -/
def replacement : Char := '\uFFFD'

/-- A piece as a character. -/
def Piece.lenient : Piece → Char
  | .char c => c
  | .broken _ | .unfinished _ => replacement

/-- The text that the bytes stand for, with one replacement character for each broken
piece. -/
def decodeLenient (bytes : List UInt8) : List Char := (pieces bytes).map Piece.lenient

end Plotter.Text.Utf8
