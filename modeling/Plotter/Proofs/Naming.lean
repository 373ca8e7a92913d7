import Mathlib
import Plotter.Compiler.Settings

/-!
# Names are told apart by their serial numbers

The library of a unit is in a file that has its name from the unit. The unit's name holds a serial
number, between its prefix and the digits of chance, so two units of one source of names have
different files unless their numbers are the same. What the digits of chance are does not matter.

## What is proved

* `NameSource.fileAt_injective`: the serial number can be told from the name of the file.
* `NameSource.unitAt_injective`, `NameSource.crateAt_injective`, `NameSource.qualifiedAt_injective`:
  and from each of the other names that come of a unit's.
-/

namespace Plotter

/-- A digit is its own lower case. -/
theorem toLower_of_isDigit {c : Char} (h : c.isDigit = true) : c.toLower = c := by
  obtain ⟨-, high⟩ : 48 ≤ c.toNat ∧ c.toNat ≤ 57 := Char.isDigit_iff_toNat.1 h
  refine Char.toLower_eq_of_not_isUpper fun upper => ?_
  have low : 65 ≤ c.toNat := (of_decide_eq_true upper).1
  omega

/-- The digits of a number end before an underscore, so the number can be told from them. -/
theorem eq_of_digits_underscore {m n : Nat} {xs ys : List Char}
    (h : Nat.toDigits 10 m ++ '_' :: xs = Nat.toDigits 10 n ++ '_' :: ys) : m = n := by
  have cut (k : Nat) (zs : List Char) :
      (Nat.toDigits 10 k ++ '_' :: zs).takeWhile (· != '_') = Nat.toDigits 10 k := by
    rw [List.takeWhile_append_of_pos]
    · simp
    · intro c member
      rw [bne_iff_ne]
      rintro rfl
      exact Nat.underscore_not_in_toDigits member
  have same : Nat.toDigits 10 m = Nat.toDigits 10 n := by
    rw [← cut m xs, h, cut n ys]
  refine Nat.repr_injective (String.toList_injective ?_)
  rw [Nat.toList_repr, Nat.toList_repr, same]

/-! ### The characters of names -/

/-- Digits to base sixteen are those of the numbers below it. -/
theorem Text.exists_of_mem_hexDigits {c : Char} {count n : Nat} (h : c ∈ hexDigits count n) :
    ∃ k : Fin 16, c = hexDigit k := by
  induction count generalizing n with
  | zero => simp [hexDigits] at h
  | succ count ih =>
    rw [hexDigits, List.mem_append, List.mem_singleton] at h
    rcases h with h | rfl
    · exact ih h
    · exact ⟨⟨n % 16, Nat.mod_lt n (by decide)⟩, rfl⟩

/-- The digits to base sixteen may be in names. -/
theorem isIdentifierRest_of_mem_hexDigits {c : Char} {count n : Nat}
    (h : c ∈ Text.hexDigits count n) : isIdentifierRest c = true := by
  have digit : ∀ k : Fin 16, isIdentifierRest (Text.hexDigit k) = true := by decide +kernel
  obtain ⟨k, rfl⟩ := Text.exists_of_mem_hexDigits h
  exact digit k

/-- So may the digits of a number in decimal. -/
theorem isIdentifierRest_of_mem_toDigits {c : Char} {n : Nat} (h : c ∈ Nat.toDigits 10 n) :
    isIdentifierRest c = true := by
  have digit := Nat.isDigit_of_mem_toDigits (by decide) (by decide) h
  simp [isIdentifierRest, Char.isAlphanum, digit]

theorem isIdentifierRest_of_isIdentifierStart {c : Char} (h : isIdentifierStart c = true) :
    isIdentifierRest c = true := by
  simp only [isIdentifierStart, isIdentifierRest, Char.isAlphanum, Bool.or_eq_true] at h ⊢
  rcases h with letter | underscore
  · exact .inl (.inl letter)
  · exact .inr underscore

theorem all_chanceSuffix (draw : UInt64) :
    (chanceSuffix draw).toList.all isIdentifierRest = true := by
  rw [chanceSuffix, String.toList_ofList, List.all_cons]
  exact Bool.and_eq_true_iff.2
    ⟨by decide, List.all_eq_true.2 fun _ => isIdentifierRest_of_mem_hexDigits⟩

namespace PackageBase

theorem all_text (base : PackageBase) : base.text.toList.all isIdentifierRest = true := by
  have valid := base.valid
  unfold isIdentifier at valid
  split at valid
  · simp at valid
  · rename_i c rest same
    rw [Bool.and_eq_true] at valid
    rw [same, List.all_cons, isIdentifierRest_of_isIdentifierStart valid.1, valid.2]
    rfl

end PackageBase

namespace NameSource

variable (s : NameSource) (serial : UInt64)

theorem all_package : (s.namesAt serial).package.toList.all isIdentifierRest = true := by
  simp [namesAt, s.base.all_text, all_chanceSuffix, -List.all_eq_true]

theorem all_unit : (s.namesAt serial).unit.toList.all isIdentifierRest = true := by
  have digits : (Nat.toDigits 10 serial.toNat).all isIdentifierRest = true :=
    List.all_eq_true.2 fun _ => isIdentifierRest_of_mem_toDigits
  simp only [namesAt, unitPrefix, String.toList_append, List.all_append, all_chanceSuffix,
    Nat.toString_eq_repr, Nat.toList_repr, digits, Bool.and_true]
  decide +kernel

end NameSource

/-! ### Serial numbers -/

namespace NameSource

/-- The file name of the library of the unit with a serial number. -/
def fileAt (s : NameSource) (serial : UInt64) : String := Settings.libraryFile (s.namesAt serial)

@[simp] theorem fileAt_next (s : NameSource) (serial : UInt64) :
    s.next.2.fileAt serial = s.fileAt serial := rfl

theorem toList_fileAt (s : NameSource) (serial : UInt64) :
    ∃ rest, (s.fileAt serial).toList =
      "libfx_".toList ++ (Nat.toDigits 10 serial.toNat ++ '_' :: rest) := by
  have digits : (Nat.toDigits 10 serial.toNat).map Char.toLower = Nat.toDigits 10 serial.toNat := by
    refine (List.map_congr_left fun c member => ?_).trans (List.map_id' _)
    exact toLower_of_isDigit (Nat.isDigit_of_mem_toDigits (by decide) (by decide) member)
  refine ⟨(Text.hexDigits 16 (s.chance serial).unit.toNat).map Char.toLower ++ ".so".toList, ?_⟩
  simp [fileAt, Settings.libraryFile, UnitNames.crate, namesAt, unitPrefix, chanceSuffix, digits]

/-- **The serial number can be told from the name of the file.** -/
theorem fileAt_injective (s : NameSource) {i j : UInt64} (h : s.fileAt i = s.fileAt j) : i = j := by
  obtain ⟨xs, first⟩ := s.toList_fileAt i
  obtain ⟨ys, second⟩ := s.toList_fileAt j
  rw [h, second] at first
  exact UInt64.toNat_inj.1 (eq_of_digits_underscore (List.append_cancel_left first)).symm

variable (s : NameSource) {i j : UInt64}

theorem crateAt_injective (h : (s.namesAt i).crate = (s.namesAt j).crate) : i = j := by
  apply s.fileAt_injective
  rw [fileAt, fileAt, Settings.libraryFile, Settings.libraryFile, h]

theorem unitAt_injective (h : (s.namesAt i).unit = (s.namesAt j).unit) : i = j := by
  apply s.crateAt_injective
  rw [UnitNames.crate, UnitNames.crate, h]

/-- There is one dot in a qualified name, and it stands before the unit's name. -/
theorem qualifiedAt_injective (h : (s.namesAt i).qualified = (s.namesAt j).qualified) : i = j := by
  have undotted {text : List Char} (all : text.all isIdentifierRest = true) : '.' ∉ text :=
    fun member => absurd (List.all_eq_true.1 all '.' member) (by decide)
  have cut (serial : UInt64) : (s.namesAt serial).qualified.toList =
      (s.namesAt serial).package.toList ++ '.' :: (s.namesAt serial).unit.toList := by
    simp [UnitNames.qualified]
  have same := congrArg String.toList h
  rw [cut, cut, List.append_cons_inj_of_notMem (undotted (s.all_package i))
    (undotted (s.all_unit i))] at same
  exact s.unitAt_injective (String.toList_injective same.2.2)

end NameSource

end Plotter
