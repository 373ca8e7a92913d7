import Mathlib
import Plotter.Proofs.Naming
import Plotter.Proofs.Text.Lines
import Plotter.Proofs.Text.Replacing
import Plotter.Text.Blank

/-!
# Texts but for the digits of chance

Two runs of the program draw different digits for the names that they give, and the digits go
wherever the names go. Two texts are the same but for them if one has an underscore and sixteen
digits to base sixteen where the other has an underscore and the digits drawn instead
(`Redrawn`). Which digits may stand for which is a relation `P` of draws.

Nothing that the program looks for in a text is among the digits, so it finds the same in both.
Where a character that cannot be in a name separates two parts of a text, it separates those of the
other, whatever digits are in the parts.

## What is proved

* `Redrawn.of_append`, `Redrawn.of_append_cons`: where a text can be taken apart.
* `Redrawn.lines`, `Redrawn.replace`, `Redrawn.before?`: what is made of two such texts is the same
  but for the digits.
-/

namespace Plotter

/-- Rows of characters that are the same but for the digits of chance. -/
inductive Redrawn (P : UInt64 → UInt64 → Prop) : (text text' : List Char) → Prop
  | nil : Redrawn P [] []
  /-- A character stands for itself. -/
  | char (c : Char) {text text' : List Char} (rest : Redrawn P text text') :
      Redrawn P (c :: text) (c :: text')
  /-- Digits stand for others. -/
  | digits {draw draw' : UInt64} {text text' : List Char} (drawn : P draw draw')
      (rest : Redrawn P text text') :
      Redrawn P ((chanceSuffix draw).toList ++ text) ((chanceSuffix draw').toList ++ text')

/-- Texts that are the same but for the digits of chance. -/
def RedrawnText (P : UInt64 → UInt64 → Prop) (text text' : String) : Prop :=
  Redrawn P text.toList text'.toList

theorem toList_chanceSuffix (draw : UInt64) :
    (chanceSuffix draw).toList = '_' :: Text.hexDigits 16 draw.toNat := by
  rw [chanceSuffix, String.toList_ofList]

theorem length_chanceSuffix (draw : UInt64) : (chanceSuffix draw).toList.length = 17 := by
  rw [toList_chanceSuffix, List.length_cons, Text.length_hexDigits]

/-- Nothing but what may be in names is among the digits. -/
theorem isIdentifierRest_of_mem_chanceSuffix {draw : UInt64} {c : Char}
    (member : c ∈ (chanceSuffix draw).toList) : isIdentifierRest c = true :=
  List.all_eq_true.1 (all_chanceSuffix draw) c member

/-- Two options are related if each that holds something has the other hold what it is related to. -/
theorem option_rel_of_forall {α β : Type} {R : α → β → Prop} {a? : Option α} {b? : Option β}
    (there : ∀ a, a? = some a → ∃ b, b? = some b ∧ R a b) (back : ∀ b, b? = some b → a?.isSome) :
    Option.Rel R a? b? := by
  cases a? with
  | some a =>
    obtain ⟨b, rfl, same⟩ := there a rfl
    exact .some same
  | none =>
    cases b? with
    | none => exact .none
    | some b => cases back b rfl

/-- What may be in names are characters of ASCII. -/
theorem toNat_of_isIdentifierRest {c : Char} (named : isIdentifierRest c = true) :
    48 ≤ c.toNat ∧ c.toNat ≤ 122 := by
  simp only [isIdentifierRest, Char.isAlphanum, Char.isAlpha, Char.isUpper, Char.isLower,
    Char.isDigit, Bool.or_eq_true, Bool.and_eq_true, decide_eq_true_eq, beq_iff_eq] at named
  rcases named with ((⟨low, high⟩ | ⟨low, high⟩) | ⟨low, high⟩) | rfl
  · exact ⟨Nat.le_trans (by decide) (UInt32.le_iff_toNat_le.1 low),
      Nat.le_trans (UInt32.le_iff_toNat_le.1 high) (by decide)⟩
  · exact ⟨Nat.le_trans (by decide) (UInt32.le_iff_toNat_le.1 low), UInt32.le_iff_toNat_le.1 high⟩
  · exact ⟨UInt32.le_iff_toNat_le.1 low, Nat.le_trans (UInt32.le_iff_toNat_le.1 high) (by decide)⟩
  · decide

namespace Redrawn

variable {P : UInt64 → UInt64 → Prop} {text text' more more' : List Char} {c : Char}

theorem refl (text : List Char) : Redrawn P text text := by
  induction text with
  | nil => exact .nil
  | cons c text ih => exact .char c ih

theorem symm (h : Redrawn P text text') : Redrawn (fun draw draw' => P draw' draw) text' text := by
  induction h with
  | nil => exact .nil
  | char c _ ih => exact .char c ih
  | digits drawn _ ih => exact .digits drawn ih

theorem append (h : Redrawn P text text') (h' : Redrawn P more more') :
    Redrawn P (text ++ more) (text' ++ more') := by
  induction h with
  | nil => exact h'
  | char c _ ih => exact .char c ih
  | digits drawn _ ih => simpa using Redrawn.digits drawn ih

theorem chance {draw draw' : UInt64} (drawn : P draw draw') :
    Redrawn P (chanceSuffix draw).toList (chanceSuffix draw').toList := by
  simpa using Redrawn.digits drawn .nil

/-- What cannot tell what is in a name from an underscore finds nothing in which the texts differ. -/
theorem map_eq (h : Redrawn P text text') {α : Type} {f : Char → α} {a : α}
    (same : ∀ c, isIdentifierRest c = true → f c = a) : text.map f = text'.map f := by
  induction h with
  | nil => rfl
  | char c _ ih => rw [List.map_cons, List.map_cons, ih]
  | digits drawn _ ih =>
    have flat (draw : UInt64) : (chanceSuffix draw).toList.map f = List.replicate 17 a := by
      rw [List.eq_replicate_iff, List.length_map, length_chanceSuffix]
      refine ⟨rfl, fun b member => ?_⟩
      obtain ⟨c, inside, rfl⟩ := List.mem_map.1 member
      exact same c (isIdentifierRest_of_mem_chanceSuffix inside)
    rw [List.map_append, List.map_append, flat, flat, ih]

theorem length_eq (h : Redrawn P text text') : text.length = text'.length := by
  simpa using congrArg List.length (h.map_eq (f := fun _ => ()) (a := ()) fun _ _ => rfl)

/-- A text too short for the digits is the other. -/
theorem eq_of_short (h : Redrawn P text text') (short : text.length < 17) : text = text' := by
  induction h with
  | nil => rfl
  | char c _ ih =>
    rw [List.length_cons] at short
    rw [ih (by omega)]
  | digits =>
    rw [List.length_append, length_chanceSuffix] at short
    omega

theorem nil_left (h : Redrawn P [] text) : text = [] :=
  List.length_eq_zero_iff.1 h.length_eq.symm

/-! ### Taking texts apart -/

/-- A character that is no underscore stands for itself. -/
theorem of_cons (plain : c ≠ '_') (h : Redrawn P (c :: text) more) :
    ∃ text', more = c :: text' ∧ Redrawn P text text' := by
  generalize same : c :: text = whole at h
  cases h with
  | nil => cases same
  | char c' rest =>
    obtain ⟨rfl, rfl⟩ := List.cons.inj same
    exact ⟨_, rfl, rest⟩
  | digits drawn rest =>
    rw [toList_chanceSuffix] at same
    exact absurd (List.cons.inj same).1 plain

/-- A text without an underscore stands for itself. -/
theorem of_append (plain : '_' ∉ text) (h : Redrawn P (text ++ more) more') :
    ∃ rest, more' = text ++ rest ∧ Redrawn P more rest := by
  induction text generalizing more' with
  | nil => exact ⟨more', rfl, h⟩
  | cons c text ih =>
    rw [List.mem_cons, not_or] at plain
    obtain ⟨_, rfl, tail⟩ := of_cons (Ne.symm plain.1) h
    obtain ⟨rest, rfl, behind⟩ := ih plain.2 tail
    exact ⟨rest, rfl, behind⟩

theorem eq_of_plain (h : Redrawn P text text') (plain : '_' ∉ text) : text = text' := by
  rw [← List.append_nil text] at h
  obtain ⟨rest, rfl, behind⟩ := of_append plain h
  rw [behind.nil_left, List.append_nil]

/-- What cannot be in a name comes at the same place in both texts. -/
theorem of_append_cons (foreign : isIdentifierRest c = false)
    (h : Redrawn P (text ++ c :: more) more') :
    ∃ first rest, more' = first ++ c :: rest ∧ Redrawn P text first ∧ Redrawn P more rest := by
  generalize same : text ++ c :: more = whole at h
  induction h generalizing text with
  | nil => simp at same
  | char d tail ih =>
    cases text with
    | nil =>
      obtain ⟨rfl, rfl⟩ := List.cons.inj same
      exact ⟨[], _, rfl, .nil, tail⟩
    | cons d' text =>
      obtain ⟨rfl, behind⟩ := List.cons.inj same
      obtain ⟨first, rest, rfl, before, after⟩ := ih behind
      exact ⟨d' :: first, rest, rfl, .char d' before, after⟩
  | @digits draw draw' whole whole' drawn tail ih =>
    -- The character is not among the digits, so it comes after them.
    rcases List.append_eq_append_iff.1 same with ⟨middle, begins, rests⟩ | ⟨middle, begins, rests⟩
    · cases middle with
      | nil =>
        rw [List.nil_append] at rests
        have same' : [] ++ c :: more = whole := rests
        obtain ⟨first, rest, rfl, before, after⟩ := ih same'
        refine ⟨(chanceSuffix draw').toList ++ first, rest, by simp, ?_, after⟩
        rw [List.append_nil] at begins
        rw [← begins, before.nil_left, List.append_nil]
        exact chance drawn
      | cons d middle =>
        obtain ⟨rfl, -⟩ := List.cons.inj rests
        have inside : c ∈ (chanceSuffix draw).toList := by simp [begins]
        rw [isIdentifierRest_of_mem_chanceSuffix inside] at foreign
        cases foreign
    · obtain ⟨first, rest, rfl, before, after⟩ := ih rests.symm
      refine ⟨(chanceSuffix draw').toList ++ first, rest, by rw [List.append_assoc], ?_, after⟩
      rw [begins]
      exact .digits drawn before

/-- What cannot be in a name, at the end of a text. -/
theorem of_append_foreign (foreign : ∀ c ∈ more, isIdentifierRest c = false)
    (h : Redrawn P (text ++ more) more') : ∃ first, more' = first ++ more ∧ Redrawn P text first := by
  cases more with
  | nil => exact ⟨more', by simp, by simpa using h⟩
  | cons c more =>
    obtain ⟨first, rest, rfl, before, after⟩ := of_append_cons (foreign c (by simp)) h
    have plain : '_' ∉ more := fun member =>
      absurd (foreign '_' (List.mem_cons_of_mem c member)) (by decide)
    exact ⟨first, by rw [after.eq_of_plain plain], before⟩

/-! ### Blanks and lines -/

theorem all_isBlank (h : Redrawn P text text') : text.all Text.isBlank = text'.all Text.isBlank := by
  have printed (c : Char) (named : isIdentifierRest c = true) : Text.isBlank c = false := by
    obtain ⟨low, high⟩ := toNat_of_isIdentifierRest named
    simp only [Text.isBlank, Bool.or_eq_false_iff, Bool.and_eq_false_iff, decide_eq_false_iff_not,
      beq_eq_false_iff_ne]
    omega
  simpa [List.all_map] using congrArg (List.all · id) (h.map_eq printed)

theorem withoutReturn {line line' : List Char} (h : Redrawn P line.reverse line'.reverse) :
    Redrawn P (Text.withoutReturn line).reverse (Text.withoutReturn line').reverse := by
  have foreign : isIdentifierRest '\r' = false := by decide
  -- A carriage return at the end of one line is at the end of the other.
  have ends {P : UInt64 → UInt64 → Prop} {line line' : List Char}
      (h : Redrawn P ('\r' :: line).reverse line'.reverse) :
      ∃ rest, line' = '\r' :: rest ∧ Redrawn P line.reverse rest.reverse := by
    rw [List.reverse_cons] at h
    obtain ⟨first, same, before⟩ := of_append_foreign (by simpa using foreign) h
    refine ⟨first.reverse, ?_, by simpa using before⟩
    simpa using congrArg List.reverse same
  by_cases ret : ∃ rest, line = '\r' :: rest
  · obtain ⟨rest, rfl⟩ := ret
    obtain ⟨rest', rfl, before⟩ := ends h
    exact before
  · have ret' : ¬∃ rest, line' = '\r' :: rest := by
      rintro ⟨rest', rfl⟩
      obtain ⟨rest, rfl, -⟩ := ends h.symm
      exact ret ⟨rest, rfl⟩
    have kept {line : List Char} (other : ¬∃ rest, line = '\r' :: rest) :
        Text.withoutReturn line = line := by
      unfold Text.withoutReturn
      split
      · exact absurd ⟨_, rfl⟩ other
      · rfl
    rw [kept ret, kept ret']
    exact h

theorem linesAfter (h : Redrawn P text text') {line line' : List Char}
    (begun : Redrawn P line.reverse line'.reverse) :
    List.Forall₂ (Redrawn P) (Text.linesAfter line text) (Text.linesAfter line' text') := by
  induction h generalizing line line' with
  | nil =>
    have same : line.isEmpty = line'.isEmpty := by
      have length := begun.length_eq
      rw [List.length_reverse, List.length_reverse] at length
      cases line <;> cases line' <;> simp_all
    simp only [Text.linesAfter, same]
    split
    · exact .nil
    · exact .cons begun .nil
  | char c _ ih =>
    simp only [Text.linesAfter]
    split
    · exact .cons begun.withoutReturn (ih .nil)
    · refine ih ?_
      rw [List.reverse_cons, List.reverse_cons]
      exact begun.append (.refl [c])
  | digits drawn _ ih =>
    have feedless (draw : UInt64) : '\n' ∉ (chanceSuffix draw).toList := fun member =>
      absurd (isIdentifierRest_of_mem_chanceSuffix member) (by decide)
    rw [Text.linesAfter_append_of_not_mem (feedless _), Text.linesAfter_append_of_not_mem (feedless _)]
    refine ih ?_
    rw [List.reverse_append, List.reverse_append, List.reverse_reverse, List.reverse_reverse]
    exact begun.append (chance drawn)

/-- **The lines of two texts** are the same but for the digits. -/
theorem lines (h : Redrawn P text text') :
    List.Forall₂ (Redrawn P) (Text.lines text) (Text.lines text') :=
  h.linesAfter .nil

/-! ### Tokens -/

variable {sign : Char} {word value value' : List Char}

/-- A token without an underscore begins both texts or neither. -/
theorem prefix_iff (h : Redrawn P text text') {token : List Char} (plain : '_' ∉ token) :
    token <+: text ↔ token <+: text' := by
  constructor
  · rintro ⟨rest, rfl⟩
    obtain ⟨rest', rfl, -⟩ := of_append plain h
    exact List.prefix_append ..
  · rintro ⟨rest, rfl⟩
    obtain ⟨rest', rfl, -⟩ := of_append plain h.symm
    exact List.prefix_append ..

theorem not_mem_chanceSuffix (foreign : isIdentifierRest c = false) (draw : UInt64) :
    c ∉ (chanceSuffix draw).toList := fun member => by
  rw [isIdentifierRest_of_mem_chanceSuffix member] at foreign
  cases foreign

theorem plain_cons (foreign : isIdentifierRest sign = false) (plain : '_' ∉ word) :
    '_' ∉ sign :: word := by
  rw [List.mem_cons, not_or]
  refine ⟨?_, plain⟩
  rintro rfl
  exact absurd foreign (by decide)

/-- **Replacing a token** that no name holds. -/
theorem replace (foreign : isIdentifierRest sign = false) (plain : '_' ∉ word)
    (values : Redrawn P value value') (h : Redrawn P text text') :
    Redrawn P (Text.replace (sign :: word) value text) (Text.replace (sign :: word) value' text') := by
  have plain' : '_' ∉ sign :: word := plain_cons foreign plain
  induction size : text.length using Nat.strong_induction_on generalizing text text' with
  | _ size ih =>
    cases h with
    | nil => exact .nil
    | digits drawn rest =>
      rw [Text.replace_append_of_free (not_mem_chanceSuffix foreign _),
        Text.replace_append_of_free (not_mem_chanceSuffix foreign _)]
      refine .digits drawn (ih _ ?_ rest rfl)
      rw [← size, List.length_append, length_chanceSuffix]
      omega
    | @char c text text' rest =>
      have whole := Redrawn.char c rest
      by_cases here : sign :: word <+: c :: text
      · obtain ⟨after, same⟩ := here
        rw [← same] at whole size ⊢
        obtain ⟨after', same', behind⟩ := of_append plain' whole
        rw [same', Text.replace_token_append (by simp), Text.replace_token_append (by simp)]
        refine values.append (ih _ ?_ behind rfl)
        rw [← size, List.length_append, List.length_cons]
        omega
      · rw [Text.replace_cons_of_not here,
          Text.replace_cons_of_not (mt (whole.prefix_iff plain').2 here)]
        exact .char c (ih _ (by rw [← size]; exact Nat.lt_succ_self _) rest rfl)

/-- **What comes before a token** that no name holds. -/
theorem before? (foreign : isIdentifierRest sign = false) (plain : '_' ∉ word)
    (h : Redrawn P text text') :
    Option.Rel (Redrawn P) (Text.before? (sign :: word) text)
      (Text.before? (sign :: word) text') := by
  have map {first first' : List Char} {rest rest' : Option (List Char)}
      (begins : Redrawn P first first') (rests : Option.Rel (Redrawn P) rest rest') :
      Option.Rel (Redrawn P) (rest.map (first ++ ·)) (rest'.map (first' ++ ·)) := by
    cases rests with
    | none => exact .none
    | some behind => exact .some (begins.append behind)
  induction h with
  | nil => exact .none
  | digits drawn _ ih =>
    rw [Text.before?_append_of_free (not_mem_chanceSuffix foreign _),
      Text.before?_append_of_free (not_mem_chanceSuffix foreign _)]
    exact map (chance drawn) ih
  | char c rest ih =>
    have begins := (Redrawn.char c rest).prefix_iff (plain_cons foreign plain)
    simp only [Text.before?, List.isPrefixOf_iff_prefix, begins]
    split
    · exact .some .nil
    · exact map (.refl [c]) ih

end Redrawn

end Plotter
