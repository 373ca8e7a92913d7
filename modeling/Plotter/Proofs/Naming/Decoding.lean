import Mathlib
import Plotter.Proofs.Naming

/-!
# Names are identifiers, and can be read back

What may be in a name is told from a base one character at a time. Here it is a grammar instead,
that of the identifiers of ASCII: a letter or an underscore, then any number of letters, digits and
underscores. A base is what the grammar allows, and whatever is made of one is an identifier again.

A qualified name is three pieces run together, with digits next to digits: the serial number stands
before an underscore and digits of chance, which may be decimal digits as well. It can be read in one
way all the same (`UnitNames.Reads`), since no name holds a dot and no number holds an underscore.
That the pieces were made by the program is not needed for it: any package, unit and number that make
up the text are the ones it came from.

## What is proved

* `isIdentifier_iff`: the check on a base accepts the grammar.
* `NameSource.spelled_next`, `NameSource.reads_next_iff`: what the next names look like, and that
  they are the only reading of the qualified name.
* `NameSource.decoding_exact`: both, for every text offered as a base, every serial number and all
  chance.
-/

namespace Plotter

/-! ### The grammar of identifiers -/

namespace Identifier

/-- A letter or an underscore: `[A-Za-z_]`. -/
def Begins (c : Char) : Prop := 'A' ≤ c ∧ c ≤ 'Z' ∨ 'a' ≤ c ∧ c ≤ 'z' ∨ c = '_'

/-- A letter, a digit or an underscore: `[A-Za-z0-9_]`. -/
def GoesOn (c : Char) : Prop := Begins c ∨ '0' ≤ c ∧ c ≤ '9'

instance : DecidablePred Begins := fun c => by unfold Begins; infer_instance

instance : DecidablePred GoesOn := fun c => by unfold GoesOn; infer_instance

end Identifier

/-- An identifier of ASCII: `[A-Za-z_][A-Za-z0-9_]*`. -/
inductive Identifier : List Char → Prop
  | mk {c : Char} {rest : List Char} (begins : Identifier.Begins c)
      (goes : ∀ d ∈ rest, Identifier.GoesOn d) : Identifier (c :: rest)

theorem isIdentifierStart_iff (c : Char) :
    isIdentifierStart c = true ↔ Identifier.Begins c := by
  simp [isIdentifierStart, Identifier.Begins, Char.isAlpha, Char.isUpper, Char.isLower,
    Char.le_def, or_assoc]

theorem isIdentifierRest_iff (c : Char) : isIdentifierRest c = true ↔ Identifier.GoesOn c := by
  simp [isIdentifierRest, Identifier.GoesOn, Identifier.Begins, Char.isAlphanum, Char.isAlpha,
    Char.isUpper, Char.isLower, Char.isDigit, Char.le_def]
  tauto

/-- **The check on a base accepts the identifiers, and nothing else.** -/
theorem isIdentifier_iff (text : List Char) : isIdentifier text = true ↔ Identifier text := by
  cases text with
  | nil => exact ⟨nofun, nofun⟩
  | cons c rest =>
    rw [isIdentifier, Bool.and_eq_true, List.all_eq_true, isIdentifierStart_iff]
    simp only [isIdentifierRest_iff]
    exact ⟨fun ⟨begins, goes⟩ => .mk begins goes, fun | .mk begins goes => ⟨begins, goes⟩⟩

namespace Identifier

variable {text more : List Char}

/-- Whatever may go on in an identifier may be added to one. -/
theorem append (h : Identifier text) (goes : ∀ c ∈ more, GoesOn c) :
    Identifier (text ++ more) := by
  cases h with
  | mk begins before =>
    refine .mk begins fun c member => ?_
    exact (List.mem_append.1 member).elim (before c) (goes c)

/-- The lower case of a character of ASCII is what the character may be in an identifier. -/
theorem toLower_of_begins {c : Char} (h : Begins c) : Begins c.toLower := by
  have all : ∀ k : Fin 128, Begins (Char.ofNat k) → Begins (Char.ofNat k).toLower := by
    decide +kernel
  have small : c.toNat < 128 := by
    rcases h with ⟨-, high⟩ | ⟨-, high⟩ | rfl
    · exact Nat.lt_of_le_of_lt (UInt32.le_iff_toNat_le.1 high) (by decide)
    · exact Nat.lt_of_le_of_lt (UInt32.le_iff_toNat_le.1 high) (by decide)
    · decide
  have lower := all ⟨c.toNat, small⟩
  simp only [Char.ofNat_toNat] at lower
  exact lower h

theorem toLower_of_goesOn {c : Char} (h : GoesOn c) : GoesOn c.toLower := by
  rcases h with letter | ⟨low, high⟩
  · exact .inl (toLower_of_begins letter)
  · rw [toLower_of_isDigit (by simpa [Char.isDigit, Char.le_def] using ⟨low, high⟩)]
    exact .inr ⟨low, high⟩

/-- An identifier in lower case is an identifier. -/
theorem map_toLower (h : Identifier text) : Identifier (text.map Char.toLower) := by
  cases h with
  | mk begins goes =>
    refine .mk (toLower_of_begins begins) fun c member => ?_
    obtain ⟨d, inside, rfl⟩ := List.mem_map.1 member
    exact toLower_of_goesOn (goes d inside)

/-- There is no dot in an identifier. -/
theorem dot_notMem (h : Identifier text) : '.' ∉ text := by
  cases h with
  | mk begins goes =>
    rw [List.mem_cons, not_or]
    refine ⟨?_, fun member => absurd (goes '.' member) (by decide)⟩
    rintro rfl
    exact absurd begins (by decide)

end Identifier

/-- Sixteen digits to base sixteen, in lower case: `[0-9a-f]{16}`. -/
structure ChanceDigits (digits : List Char) : Prop where
  length_eq : digits.length = 16
  digit : ∀ c ∈ digits, '0' ≤ c ∧ c ≤ '9' ∨ 'a' ≤ c ∧ c ≤ 'f'

theorem chanceDigits_hexDigits (n : Nat) : ChanceDigits (Text.hexDigits 16 n) where
  length_eq := Text.length_hexDigits 16 n
  digit c member := by
    have all : ∀ k : Fin 16, '0' ≤ Text.hexDigit k ∧ Text.hexDigit k ≤ '9' ∨
        'a' ≤ Text.hexDigit k ∧ Text.hexDigit k ≤ 'f' := by decide +kernel
    obtain ⟨k, rfl⟩ := Text.exists_of_mem_hexDigits member
    exact all k

/-- What stands at the end of a name may be in it. -/
theorem goesOn_of_mem_chanceSuffix {draw : UInt64} {c : Char}
    (member : c ∈ (chanceSuffix draw).toList) : Identifier.GoesOn c :=
  (isIdentifierRest_iff c).1 (List.all_eq_true.1 (all_chanceSuffix draw) c member)

/-! ### What names look like -/

/-- A pair of names is spelled with a base and a serial number if both end in digits of chance that
come after the base, and after the number in decimal, and both may name something, in lower case as
well. -/
structure UnitNames.Spelled (base : String) (serial : Nat) (n : UnitNames) : Prop where
  package : ∃ digits, ChanceDigits digits ∧ n.package = base ++ "_" ++ String.ofList digits
  unit : ∃ digits, ChanceDigits digits ∧
    n.unit = "Fx_" ++ toString serial ++ "_" ++ String.ofList digits
  identifiers : Identifier n.package.toList ∧ Identifier n.unit.toList ∧ Identifier n.crate.toList
  one_dot : n.qualified.toList.count '.' = 1

/-- A way to read a text as a qualified name: a package, a dot and a unit, which begins with its
prefix, a number in decimal and an underscore. -/
def UnitNames.Reads (text package unit : String) (serial : Nat) : Prop :=
  text = package ++ "." ++ unit ∧ ∃ rest, unit = "Fx_" ++ toString serial ++ "_" ++ rest

namespace NameSource

variable (s : NameSource)

theorem identifier_package : Identifier s.next.1.package.toList := by
  rw [next, namesAt, String.toList_append]
  exact ((isIdentifier_iff _).1 s.base.valid).append fun _ => goesOn_of_mem_chanceSuffix

theorem identifier_unit : Identifier s.next.1.unit.toList := by
  have begins : Identifier unitPrefix.toList := (isIdentifier_iff _).1 (by decide +kernel)
  have goes : ∀ c ∈ (toString s.issued.toNat).toList, Identifier.GoesOn c := by
    intro c member
    rw [Nat.toString_eq_repr, Nat.toList_repr] at member
    exact (isIdentifierRest_iff c).1 (isIdentifierRest_of_mem_toDigits member)
  rw [next, namesAt, String.toList_append, String.toList_append]
  exact (begins.append goes).append fun _ => goesOn_of_mem_chanceSuffix

/-- **What the next names look like.** -/
theorem spelled_next : s.next.1.Spelled s.base.text s.issued.toNat where
  package := by
    refine ⟨_, chanceDigits_hexDigits (s.chance s.issued).package.toNat, ?_⟩
    apply String.toList_injective
    simp [next, namesAt, chanceSuffix]
  unit := by
    refine ⟨_, chanceDigits_hexDigits (s.chance s.issued).unit.toNat, ?_⟩
    apply String.toList_injective
    simp [next, namesAt, chanceSuffix, unitPrefix]
  identifiers := by
    refine ⟨s.identifier_package, s.identifier_unit, ?_⟩
    rw [UnitNames.crate, String.toList_ofList]
    exact s.identifier_unit.map_toLower
  one_dot := by
    have package := List.count_eq_zero.2 s.identifier_package.dot_notMem
    have unit := List.count_eq_zero.2 s.identifier_unit.dot_notMem
    simp [UnitNames.qualified, List.count_append, package, unit]

/-- **The next names are the only ones that their qualified name can be read as.** -/
theorem reads_next_iff (package unit : String) (serial : Nat) :
    UnitNames.Reads s.next.1.qualified package unit serial ↔
      package = s.next.1.package ∧ unit = s.next.1.unit ∧ serial = s.issued.toNat := by
  obtain ⟨digits, -, spelled⟩ := s.spelled_next.unit
  constructor
  · rintro ⟨joined, rest, numbered⟩
    have joined := congrArg String.toList joined
    simp only [UnitNames.qualified, String.toList_append, List.append_assoc] at joined
    have parts := (List.append_cons_inj_of_notMem s.identifier_package.dot_notMem
      s.identifier_unit.dot_notMem).1 joined
    have sameUnit : s.next.1.unit = unit := String.toList_injective parts.2.2
    refine ⟨(String.toList_injective parts.1).symm, sameUnit.symm, ?_⟩
    -- The digits of both numbers stand between the prefix and an underscore.
    rw [spelled, numbered] at sameUnit
    have digitsSame := congrArg String.toList sameUnit
    simp only [String.toList_append, List.append_assoc, List.append_cancel_left_eq] at digitsSame
    rw [Nat.toString_eq_repr, Nat.toString_eq_repr, Nat.toList_repr, Nat.toList_repr] at digitsSame
    exact (eq_of_digits_underscore digitsSame).symm
  · rintro ⟨rfl, rfl, rfl⟩
    exact ⟨rfl, _, spelled⟩

/-- **A text is taken as a base if it is an identifier of ASCII, and for no other text. Whatever the
base, the serial number and the chance, the next names are identifiers of their spelling, and the
package, the unit and the serial number can be read from the qualified name in one way only.** -/
theorem decoding_exact :
    (∀ text : String, ((PackageBase.ofText? text).isSome ↔ Identifier text.toList) ∧
      ∀ base ∈ PackageBase.ofText? text, base.text = text) ∧
    ∀ s : NameSource, s.next.1.Spelled s.base.text s.issued.toNat ∧
      ∀ (package unit : String) (serial : Nat),
        UnitNames.Reads s.next.1.qualified package unit serial ↔
          package = s.next.1.package ∧ unit = s.next.1.unit ∧ serial = s.issued.toNat := by
  refine ⟨fun text => ?_, fun s => ⟨s.spelled_next, s.reads_next_iff⟩⟩
  rw [← isIdentifier_iff, PackageBase.ofText?]
  split
  · rename_i valid
    exact ⟨by simp [valid], fun base found => by rw [← Option.some.inj found]⟩
  · rename_i refused
    exact ⟨by simp [refused], nofun⟩

end NameSource

end Plotter
