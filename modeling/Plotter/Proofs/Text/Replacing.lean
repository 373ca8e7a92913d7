import Plotter.Text.Replace

/-!
# Replacing one token among others

Several tokens can be replaced in a text one after the other. Tokens that begin with a sign and hold
it nowhere else cannot overlap, so the replacement of one leaves the occurrences of the others where
they were. It makes no new ones either, as long as what is put in the place of a token begins with a
character that no token holds.

## What is proved

* `Text.replace_token_append`, `Text.replace_append_of_free`, `Text.replace_cons_of_not`: what a
  replacement does with the beginning of a text.
* `Text.prefix_of_replace`: a replacement completes nothing that another token begins with.
* `Text.replace_of_before?`: what comes before the first occurrence of a token is left alone.
-/

namespace Plotter.Text

variable {sign head c : Char} {token other word value xs text rest : List Char}

@[simp] theorem replace_nil : replace token value [] = [] := rfl

/-- What is still to be passed over is passed over. -/
theorem replaceAfter_append : replaceAfter token value xs.length (xs ++ rest) =
    replace token value rest := by
  induction xs with
  | nil => rfl
  | cons c xs ih => exact ih

/-- A token at the beginning of a text is replaced. -/
theorem replace_token_append (nonempty : token ≠ []) :
    replace token value (token ++ rest) = value ++ replace token value rest := by
  cases token with
  | nil => exact absurd rfl nonempty
  | cons c token =>
    have found : (c :: token).isPrefixOf (c :: (token ++ rest)) = true :=
      List.isPrefixOf_iff_prefix.2 ⟨rest, rfl⟩
    rw [List.cons_append, replace, replaceAfter, if_pos found]
    exact congrArg (value ++ ·) replaceAfter_append

/-- A character at which the token does not begin is left alone. -/
theorem replace_cons_of_not (other : ¬token <+: c :: text) :
    replace token value (c :: text) = c :: replace token value text := by
  rw [replace, replaceAfter, if_neg (by rwa [List.isPrefixOf_iff_prefix])]
  rfl

/-- A text in which the first character of the token does not occur is left alone. -/
theorem replace_append_of_free (free : sign ∉ xs) :
    replace (sign :: word) value (xs ++ rest) = xs ++ replace (sign :: word) value rest := by
  induction xs with
  | nil => rfl
  | cons c xs ih =>
    rw [List.mem_cons, not_or] at free
    have other : ¬sign :: word <+: c :: (xs ++ rest) := by
      rw [List.cons_prefix_cons]
      exact fun found => free.1 found.1
    rw [List.cons_append, replace_cons_of_not other, ih free.2]
    rfl

/-- Another token at the beginning of a text is left alone, if it holds the sign only at its own
beginning. -/
theorem replace_other_append (other : ¬sign :: word <+: sign :: xs ++ rest) (free : sign ∉ xs) :
    replace (sign :: word) value (sign :: xs ++ rest) =
      sign :: xs ++ replace (sign :: word) value rest := by
  rw [List.cons_append] at other ⊢
  rw [replace_cons_of_not other, replace_append_of_free free]
  rfl

/-- What begins a text after a replacement, and does not hold the first character of what was put
in, began it before. -/
theorem prefix_of_replace (free : head ∉ xs)
    (found : xs <+: replace token (head :: value) text) : xs <+: text := by
  induction xs generalizing text with
  | nil => exact List.nil_prefix
  | cons c xs ih =>
    rw [List.mem_cons, not_or] at free
    cases text with
    | nil => exact absurd (List.prefix_nil.1 found) (by simp)
    | cons d text =>
      by_cases here : token <+: d :: text
      · rw [replace, replaceAfter, if_pos (List.isPrefixOf_iff_prefix.2 here), List.cons_append,
          List.cons_prefix_cons] at found
        exact absurd found.1.symm free.1
      · rw [replace_cons_of_not here, List.cons_prefix_cons] at found
        exact List.cons_prefix_cons.2 ⟨found.1, ih free.2 found.2⟩

/-! ### Where a token occurs -/

/-- A token occurs in a text that holds it, with something before it and something after. -/
theorem occurs_iff : occurs token text = true ↔ token <:+: text := by
  induction text with
  | nil => simp [occurs]
  | cons c text ih =>
    rw [occurs, Bool.or_eq_true, List.isPrefixOf_iff_prefix, ih, List.infix_cons_iff]

theorem occurs_cons_of_not (other : ¬token <+: c :: text) :
    occurs token (c :: text) = occurs token text := by
  have unbegun : token.isPrefixOf (c :: text) = false := by
    rwa [Bool.eq_false_iff, ne_eq, List.isPrefixOf_iff_prefix]
  rw [occurs, unbegun, Bool.false_or]

theorem occurs_self_append : occurs token (token ++ rest) = true := by
  cases token with
  | nil => cases rest <;> rfl
  | cons c token =>
    have found : (c :: token).isPrefixOf (c :: (token ++ rest)) = true :=
      List.isPrefixOf_iff_prefix.2 ⟨rest, rfl⟩
    rw [List.cons_append, occurs, found, Bool.true_or]

theorem occurs_append (found : occurs token rest = true) : occurs token (xs ++ rest) = true := by
  induction xs with
  | nil => exact found
  | cons c xs ih => rw [List.cons_append, occurs, ih, Bool.or_true]

/-- A token does not begin in a text in which its first character does not occur. -/
theorem occurs_append_of_free (free : sign ∉ xs) :
    occurs (sign :: word) (xs ++ rest) = occurs (sign :: word) rest := by
  induction xs with
  | nil => rfl
  | cons c xs ih =>
    rw [List.mem_cons, not_or] at free
    have other : ¬sign :: word <+: c :: (xs ++ rest) := by
      rw [List.cons_prefix_cons]
      exact fun found => free.1 found.1
    rw [List.cons_append, occurs_cons_of_not other, ih free.2]

theorem occurs_other_append (other : ¬sign :: word <+: sign :: xs ++ rest) (free : sign ∉ xs) :
    occurs (sign :: word) (sign :: xs ++ rest) = occurs (sign :: word) rest := by
  rw [List.cons_append] at other ⊢
  rw [occurs_cons_of_not other, occurs_append_of_free free]

/-- A token does not begin in a text in which its first character does not occur, so that text comes
before it. -/
theorem before?_append_of_free (free : sign ∉ xs) :
    before? (sign :: word) (xs ++ rest) = (before? (sign :: word) rest).map (xs ++ ·) := by
  induction xs with
  | nil => simp
  | cons c xs ih =>
    rw [List.mem_cons, not_or] at free
    have other : ¬(sign :: word).isPrefixOf (c :: (xs ++ rest)) := by
      rw [List.isPrefixOf_iff_prefix, List.cons_prefix_cons]
      exact fun found => free.1 found.1
    rw [List.cons_append, before?, if_neg other, ih free.2, Option.map_map]
    rfl

/-- What comes before the first occurrence of a token is left alone, and the value comes after it. -/
theorem replace_of_before? {before : List Char} (value : List Char) (nonempty : token ≠ [])
    (found : before? token text = some before) :
    ∃ after, text = before ++ token ++ after ∧
      replace token value text = before ++ value ++ replace token value after := by
  induction text generalizing before with
  | nil =>
    cases token with
    | nil => exact absurd rfl nonempty
    | cons c token => simp [before?] at found
  | cons c text ih =>
    rw [before?] at found
    by_cases here : token <+: c :: text
    · rw [if_pos (List.isPrefixOf_iff_prefix.2 here)] at found
      obtain rfl := Option.some.inj found
      obtain ⟨after, same⟩ := here
      refine ⟨after, same.symm, ?_⟩
      rw [← same, replace_token_append nonempty]
      rfl
    · rw [if_neg (by rwa [List.isPrefixOf_iff_prefix])] at found
      obtain ⟨before, later, rfl⟩ := Option.map_eq_some_iff.1 found
      obtain ⟨after, same, replaced⟩ := ih later
      refine ⟨after, congrArg (c :: ·) same, ?_⟩
      rw [replace_cons_of_not here, replaced]
      rfl

end Plotter.Text
