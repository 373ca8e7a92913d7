/-!
# Finding and replacing a token

Occurrences of a token are found from left to right and do not overlap; what is put
in the place of one is not looked at again.
-/

namespace Plotter.Text

/-- `replace` on the text after an occurrence, of which `skip` characters are still to
be passed over. -/
def replaceAfter (token value : List Char) : (skip : Nat) → List Char → List Char
  | _, [] => []
  | skip + 1, _ :: rest => replaceAfter token value skip rest
  | 0, c :: rest =>
    if token.isPrefixOf (c :: rest) then value ++ replaceAfter token value (token.length - 1) rest
    else c :: replaceAfter token value 0 rest

/-- The text with `value` in the place of each occurrence of `token`. -/
def replace (token value text : List Char) : List Char := replaceAfter token value 0 text

/-- The text before the first occurrence of a token, if it occurs. -/
def before? (token : List Char) : List Char → Option (List Char)
  | [] => if token.isEmpty then some [] else none
  | c :: rest =>
    if token.isPrefixOf (c :: rest) then some [] else (before? token rest).map (c :: ·)

/-- Whether a token occurs in a text. -/
def occurs (token : List Char) : List Char → Bool
  | [] => token.isEmpty
  | c :: rest => token.isPrefixOf (c :: rest) || occurs token rest

/-- A token occurs where there is a text before its first occurrence. -/
theorem isSome_before? (token text : List Char) :
    (before? token text).isSome = occurs token text := by
  induction text with
  | nil => cases token <;> rfl
  | cons c rest ih => by_cases h : token.isPrefixOf (c :: rest) <;> simp [before?, occurs, h, ih]

end Plotter.Text
