import Mathlib
import Plotter.Proofs.Naming
import Plotter.Proofs.Text.Replacing
import Plotter.SourceUnit

/-!
# Filling in a template is one pass over it

A unit's source is made by three replacements, one after the other. Here the template is read once,
from left to right (`Template.pass`): where the token of a placeholder begins, the value of the
placeholder comes in its place, and every other character is copied. No token begins within a value.

The two agree as long as the names that go in first are `Inert`. Names with the default base are, so
whatever template a user writes, no name completes a token that the template has begun, and what
looks like a placeholder in the expression is left alone.

## What is proved

* `Template.pass_token_append`, `Template.pass_cons`: what the pass does with each part of a text.
* `Template.replaced_eq_pass`: three replacements are one pass, for inert names.
* `SourceUnit.source_eq_pass`: so it is for names of the default base.
-/

namespace Plotter

/-! ### Tokens -/

namespace Placeholder

/-- The token of a placeholder without the sign that it begins with. -/
def word : Placeholder → List Char
  | .package => "packageName".toList
  | .unit => "unitName".toList
  | .expression => "expression".toList

theorem toList_token (p : Placeholder) : p.token.toList = '$' :: p.word := by
  cases p <;> decide +kernel

theorem sign_not_mem_word (p : Placeholder) : '$' ∉ p.word := by
  cases p <;> decide +kernel

theorem mem_all (p : Placeholder) : p ∈ all := by
  cases p <;> decide

/-- At one place at most one token begins. -/
theorem eq_of_prefix_append {p q : Placeholder} {rest : List Char}
    (h : p.token.toList <+: q.token.toList ++ rest) : p = q := by
  cases p <;> cases q <;> first | rfl | simp [token, List.cons_prefix_cons] at h

end Placeholder

/-- A text that takes no part in a token: it holds no sign, and begins with a character that is in
no token. -/
structure Inert (value : List Char) : Prop where
  unsigned : '$' ∉ value
  begins : ∃ head rest, value = head :: rest ∧ ∀ p : Placeholder, head ∉ p.word

namespace Template

/-- A text read once, from left to right, with values for the placeholders. -/
def pass (value : Placeholder → List Char) : List Char → List Char
  | [] => []
  | c :: rest =>
    match Placeholder.all.find? fun p => p.token.toList.isPrefixOf (c :: rest) with
    | some p => value p ++ pass value (rest.drop p.word.length)
    | none => c :: pass value rest
termination_by text => text.length
decreasing_by all_goals simp

variable {value : Placeholder → List Char} {rest : List Char}

/-- A text is empty, or a token begins it, or a character at which no token begins. -/
theorem text_induction {P : List Char → Prop} (nil : P [])
    (token : ∀ (p : Placeholder) (rest : List Char), P rest → P (p.token.toList ++ rest))
    (char : ∀ (c : Char) (rest : List Char), (∀ p : Placeholder, ¬p.token.toList <+: c :: rest) →
      P rest → P (c :: rest)) (text : List Char) : P text := by
  induction size : text.length using Nat.strong_induction_on generalizing text with
  | _ size ih =>
    cases text with
    | nil => exact nil
    | cons c rest =>
      by_cases begun : ∃ p : Placeholder, p.token.toList <+: c :: rest
      · obtain ⟨p, after, same⟩ := begun
        rw [← same] at size ⊢
        refine token p after (ih after.length ?_ after rfl)
        rw [← size, List.length_append, p.toList_token, List.length_cons]
        omega
      · rw [not_exists] at begun
        refine char c rest begun (ih rest.length ?_ rest rfl)
        rw [← size]
        exact Nat.lt_succ_self _

@[simp] theorem pass_nil : pass value [] = [] := by
  simp [pass]

/-- The value of a placeholder comes in the place of its token. -/
theorem pass_token_append (p : Placeholder) :
    pass value (p.token.toList ++ rest) = value p ++ pass value rest := by
  have found : Placeholder.all.find? (fun q => q.token.toList.isPrefixOf (p.token.toList ++ rest)) =
      some p := by
    cases p <;> simp [Placeholder.all, Placeholder.token, List.isPrefixOf]
  rw [p.toList_token] at found ⊢
  rw [List.cons_append] at found ⊢
  rw [pass, found]
  simp

/-- Every other character is copied. -/
theorem pass_cons {c : Char} (other : ∀ p : Placeholder, ¬p.token.toList <+: c :: rest) :
    pass value (c :: rest) = c :: pass value rest := by
  have unfound :
      Placeholder.all.find? (fun p => p.token.toList.isPrefixOf (c :: rest)) = none := by
    rw [List.find?_eq_none]
    intro p _
    rw [List.isPrefixOf_iff_prefix]
    exact other p
  rw [pass, unfound]

/-- A replacement completes no token. -/
theorem not_token_of_replace {v : List Char} (inert : Inert v) (token : List Char) {c : Char}
    {p : Placeholder} (other : ¬p.token.toList <+: c :: rest) :
    ¬p.token.toList <+: c :: Text.replace token v rest := by
  obtain ⟨head, tail, rfl, foreign⟩ := inert.begins
  rw [p.toList_token, List.cons_prefix_cons] at other ⊢
  exact fun found => other ⟨found.1, Text.prefix_of_replace (foreign p) found.2⟩

/-- The token of another placeholder is left alone. -/
theorem replace_other_token {p q : Placeholder} (other : p ≠ q) (v : List Char) :
    Text.replace p.token.toList v (q.token.toList ++ rest) =
      q.token.toList ++ Text.replace p.token.toList v rest := by
  have other : ¬p.token.toList <+: q.token.toList ++ rest :=
    fun found => other (Placeholder.eq_of_prefix_append found)
  rw [p.toList_token, q.toList_token] at other ⊢
  exact Text.replace_other_append other q.sign_not_mem_word

theorem replace_token (p : Placeholder) (v : List Char) :
    Text.replace p.token.toList v (p.token.toList ++ rest) =
      v ++ Text.replace p.token.toList v rest :=
  Text.replace_token_append (by simp [p.toList_token])

/-- A text without a sign is left alone. -/
theorem replace_unsigned {v xs : List Char} (p : Placeholder) (unsigned : '$' ∉ xs) :
    Text.replace p.token.toList v (xs ++ rest) = xs ++ Text.replace p.token.toList v rest := by
  rw [p.toList_token]
  exact Text.replace_append_of_free unsigned

/-- **Three replacements are one pass**, if the values that go in first are inert. The value that
goes in last may be any text. -/
theorem replaced_eq_pass (package : Inert (value .package)) (unit : Inert (value .unit))
    (text : List Char) :
    Text.replace Placeholder.expression.token.toList (value .expression)
      (Text.replace Placeholder.unit.token.toList (value .unit)
        (Text.replace Placeholder.package.token.toList (value .package) text)) =
      pass value text := by
  induction text using text_induction with
  | nil => simp
  | token p rest ih =>
    rw [pass_token_append, ← ih]
    cases p with
    | package =>
      rw [replace_token, replace_unsigned _ package.unsigned, replace_unsigned _ package.unsigned]
    | unit =>
      rw [replace_other_token (by decide), replace_token, replace_unsigned _ unit.unsigned]
    | expression =>
      rw [replace_other_token (by decide), replace_other_token (by decide), replace_token]
  | char c rest none ih =>
    have named := not_token_of_replace package Placeholder.package.token.toList (none .expression)
    rw [pass_cons none, ← ih, Text.replace_cons_of_not (none .package),
      Text.replace_cons_of_not (not_token_of_replace package _ (none .unit)),
      Text.replace_cons_of_not (not_token_of_replace unit _ named)]

/-! ### Where tokens occur -/

theorem occurs_token (p : Placeholder) :
    Text.occurs p.token.toList (p.token.toList ++ rest) = true :=
  Text.occurs_self_append

theorem occurs_other_token {p q : Placeholder} (other : p ≠ q) :
    Text.occurs p.token.toList (q.token.toList ++ rest) = Text.occurs p.token.toList rest := by
  have other : ¬p.token.toList <+: q.token.toList ++ rest :=
    fun found => other (Placeholder.eq_of_prefix_append found)
  rw [p.toList_token, q.toList_token] at other ⊢
  exact Text.occurs_other_append other q.sign_not_mem_word

/-- The value of a placeholder is in what the pass makes of a text with its token. -/
theorem value_infix_pass {p : Placeholder} {text : List Char}
    (occurs : Text.occurs p.token.toList text = true) : value p <:+: pass value text := by
  induction text using text_induction with
  | nil => simp [p.toList_token, Text.occurs] at occurs
  | token q rest ih =>
    rw [pass_token_append]
    by_cases same : p = q
    · rw [same]
      exact (List.prefix_append ..).isInfix
    · rw [occurs_other_token same] at occurs
      exact (ih occurs).trans (List.suffix_append ..).isInfix
  | char c rest none ih =>
    rw [pass_cons none]
    rw [Text.occurs_cons_of_not (none p)] at occurs
    exact (ih occurs).trans (List.suffix_cons ..).isInfix

end Template

/-! ### Names of the default base -/

/-- A text of characters that may be in names holds no sign. -/
theorem sign_not_mem_of_all {text : List Char} (all : text.all isIdentifierRest = true) :
    '$' ∉ text :=
  fun member => absurd (List.all_eq_true.1 all '$' member) (by decide)

namespace NameSource

variable (s : NameSource) (serial : UInt64)

/-- A unit's name takes no part in a token. -/
theorem inert_unit : Inert (s.namesAt serial).unit.toList := by
  refine ⟨sign_not_mem_of_all (s.all_unit serial), 'F', "x_".toList ++
    (toString serial.toNat).toList ++ (chanceSuffix (s.chance serial).unit).toList, ?_,
    fun p => by cases p <;> decide +kernel⟩
  simp [namesAt, unitPrefix]

/-- A package name with the default base takes no part in a token. -/
theorem inert_package (h : s.base = .default) : Inert (s.namesAt serial).package.toList := by
  refine ⟨sign_not_mem_of_all (s.all_package serial), 'f', "xplot_runtime".toList ++
    (chanceSuffix (s.chance serial).package).toList, ?_, fun p => by cases p <;> decide +kernel⟩
  simp [namesAt, h, PackageBase.default]

end NameSource

namespace SourceUnit

/-- The values of the placeholders in a unit. -/
def values (names : UnitNames) (expression : String) : Placeholder → List Char
  | .package => names.package.toList
  | .unit => names.unit.toList
  | .expression => expression.toList

/-- **The source of a unit is one pass over the template**, for all names that a source of names
with the default base hands out: whatever is in the template and in the expression, each token of
the template is replaced, no other is, and the expression is in the source as it is. -/
theorem source_eq_pass (template : Template) (chance : UInt64 → Draw) (issued : UInt64)
    (expression : String) :
    let names := (NameSource.mk .default chance issued).next.1
    let source := (fill template names expression).source.toList
    source = Template.pass (values names expression) template.text.toList ∧
      expression.toList <:+: source := by
  intro names source
  have package : Inert (values names expression .package) := NameSource.inert_package _ issued rfl
  have unit : Inert (values names expression .unit) := NameSource.inert_unit _ issued
  have same : source = Template.pass (values names expression) template.text.toList := by
    simp only [source, fill, named, String.toList_ofList]
    exact Template.replaced_eq_pass package unit _
  have occurs := template.complete .expression (Placeholder.mem_all .expression)
  have inside : values names expression .expression <:+: Template.pass (values names expression) _ :=
    Template.value_infix_pass occurs
  exact ⟨same, same ▸ inside⟩

end SourceUnit

end Plotter
