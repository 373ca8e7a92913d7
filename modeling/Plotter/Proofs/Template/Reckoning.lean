import Plotter.Proofs.Request.Result
import Plotter.Proofs.Template.Position

/-!
# Columns are reckoned without running over

A column of the expression is a difference of two words and one more. Words wrap around: the
difference would run under if the place were left of the expression, and one more would run over if
the difference were the greatest word. The first is what the place is looked at for before. The second
is looked for nowhere: it comes of how the place of the expression was found. Columns are counted from
one, so the difference is less than the column of the place, which is a word.

## What is proved

* `Location.sum_overflows_iff`: the column is reckoned wrongly only at the greatest column of all, and
  only for an expression that begins at column zero.
* `SourceUnit.counted_start`: no expression does.
* `SourceUnit.reckoning_exact`: so whatever the compiler writes, a column of the expression that the
  user is told is the one that numbers without bound give.

## Honest scope

The template with the names in it is a text in memory, so its length is a word.
-/

namespace Plotter

/-! ### Reckoning in words -/

namespace Location

/-- A place is told as a column of an expression that begins at `start`: it is on that line, and not
left of it. -/
def Admits (start l : Location) : Prop := l.line = start.line ∧ start.column ≤ l.column

/-- Lines and columns are counted from one. -/
structure Counted (l : Location) : Prop where
  line : 1 ≤ l.line.toNat
  column : 1 ≤ l.column.toNat

/-- The column of the expression that a place has is reckoned in words as it is in numbers. -/
structure Reckons (start l : Location) : Prop where
  /-- The difference does not run under. -/
  difference : BitVec.usubOverflow l.column.toBitVec start.column.toBitVec = false
  /-- One more does not run over. -/
  sum : BitVec.uaddOverflow (l.column - start.column).toBitVec 1 = false
  /-- What is told is the number. It is at least one, and at most the column of the place. -/
  told : ∃ n, start.expressionColumn? l = some n ∧
    (n.toNat : Int) = l.column.toNat - start.column.toNat + 1 ∧
      1 ≤ n.toNat ∧ n.toNat ≤ l.column.toNat

variable {start l : Location}

theorem expressionColumn?_of_not_admits (apart : ¬start.Admits l) :
    start.expressionColumn? l = none := if_neg apart

/-- One more runs over at one place alone, and only if columns are counted from zero. -/
theorem sum_overflows_iff (admitted : start.Admits l) :
    BitVec.uaddOverflow (l.column - start.column).toBitVec 1 = true ↔
      start.column.toNat = 0 ∧ l.column.toNat + 1 = UInt64.size := by
  have column := UInt64.le_iff_toNat_le.1 admitted.2
  have bound := l.column.toNat_lt
  have difference := UInt64.toNat_sub_of_le _ _ admitted.2
  rw [BitVec.uaddOverflow, decide_eq_true_iff, UInt64.toNat_toBitVec, difference]
  have one : (1 : BitVec 64).toNat = 1 := rfl
  have size : UInt64.size = 2 ^ 64 := rfl
  omega

/-- **One more never runs over** if columns are counted from one, and else at the greatest column. -/
theorem never_overflows_iff :
    (∀ l, start.Admits l → BitVec.uaddOverflow (l.column - start.column).toBitVec 1 = false) ↔
      1 ≤ start.column.toNat := by
  constructor
  · intro never
    by_contra uncounted
    have zero : start.column.toNat = 0 := by omega
    let greatest : Location := ⟨start.line, .ofNat (UInt64.size - 1)⟩
    have admitted : start.Admits greatest := ⟨rfl, by rw [UInt64.le_iff_toNat_le, zero]; omega⟩
    have overflows := (sum_overflows_iff admitted).2 ⟨zero, rfl⟩
    rw [never greatest admitted] at overflows
    cases overflows
  · intro counted l admitted
    rw [← Bool.not_eq_true, sum_overflows_iff admitted]
    omega

/-- At column zero the greatest column would be told as the one before the first. -/
example : (⟨1, 0⟩ : Location).expressionColumn? ⟨1, 18446744073709551615⟩ = some 0 := by decide

/-- Where columns are counted from one, they are reckoned in words as in numbers. -/
theorem Counted.reckons (counted : start.Counted) (admitted : start.Admits l) :
    start.Reckons l where
  difference := by
    have column := UInt64.le_iff_toNat_le.1 admitted.2
    rw [BitVec.usubOverflow, decide_eq_false_iff_not, UInt64.toNat_toBitVec, UInt64.toNat_toBitVec]
    omega
  sum := never_overflows_iff.2 counted.column l admitted
  told := by
    have column := UInt64.le_iff_toNat_le.1 admitted.2
    have reached : l.column.toNat = start.column.toNat + (l.column.toNat - start.column.toNat) := by
      omega
    obtain ⟨n, told, value⟩ := Option.map_eq_some_iff.1
      (expressionColumn?_of_right admitted.1 reached counted.column)
    have first := counted.column
    exact ⟨n, told, by omega, by omega, by omega⟩

end Location

/-! ### The place of the expression -/

namespace SourceUnit

variable (template : Template) (names : UnitNames) (expression : String)

/-- **The place of the expression is counted from one.** -/
theorem counted_start (small : (named template names).length < UInt64.size) :
    (fill template names expression).start.Counted := by
  obtain ⟨before, after, -, same, -, start⟩ := named_eq template names expression
  have length := congrArg List.length same
  rw [List.length_append, List.length_append] at length
  -- The token stands behind the place, so there is room for counting one more.
  have token : Placeholder.expression.token.toList.length = 11 := rfl
  have small' : before.length + 1 < UInt64.size := by omega
  obtain ⟨line, column⟩ := Location.toNat_after small'
  rw [start]
  exact ⟨by omega, by omega⟩

end SourceUnit

/-! ### What the user is told -/

/-- A diagnostic has a column of the expression if its place is told as one. It is then the one that
numbers without bound give. -/
structure Diagnostic.Reckoned (start : Location) (d : Diagnostic) : Prop where
  told : ∀ l, d.location = some l → start.Admits l →
    start.Reckons l ∧ d.expressionColumn = start.expressionColumn? l
  untold : (∀ l, d.location = some l → ¬start.Admits l) → d.expressionColumn = none

namespace Location.Counted

variable {start : Location} (counted : start.Counted)
include counted

theorem reckoned_of_column {d : Diagnostic}
    (column : d.expressionColumn = d.location.bind start.expressionColumn?) :
    d.Reckoned start where
  told := fun l located admitted => by
    rw [column, located]
    exact ⟨counted.reckons admitted, rfl⟩
  untold := fun apart => by
    rw [column]
    cases located : d.location with
    | none => rfl
    | some l => exact expressionColumn?_of_not_admits (apart l located)

/-- Every diagnostic of an output is reckoned. -/
theorem reckoned_ofOutput (output : List Char) :
    ∀ d ∈ Diagnostic.ofOutput start output, d.Reckoned start := by
  intro d member
  rw [Diagnostic.ofOutput_eq_map] at member
  obtain ⟨p, -, rfl⟩ := List.mem_map.1 member
  cases p with
  | report r => exact counted.reckoned_of_column (Diagnostic.tells_ofReport start r).column
  | line text => exact counted.reckoned_of_column rfl

/-- What the host says itself has no place. -/
theorem reckoned_ofError (message : String) : (Diagnostic.ofError message).Reckoned start :=
  counted.reckoned_of_column rfl

theorem reckoned_complaints (run : Run) : ∀ d ∈ run.complaints start, d.Reckoned start := by
  intro d member
  simp only [Run.complaints] at member
  split at member
  · exact counted.reckoned_ofOutput _ d member
  · rcases List.mem_append.1 member with reported | added
    · exact counted.reckoned_ofOutput _ d reported
    · rw [List.mem_singleton.1 added]
      exact counted.reckoned_ofError _

theorem reckoned_warnings (run : Run) : ∀ d ∈ run.warnings start, d.Reckoned start :=
  fun d member => counted.reckoned_ofOutput _ d (List.mem_filter.1 member).1

end Location.Counted

/-- What the user hears of a run of the compiler for a unit is reckoned, whatever comes of it. -/
theorem Location.Counted.reckoned_finishRun {unit : SourceUnit} (counted : unit.start.Counted)
    (b : Bench) (m : Machine) (run : Run) :
    (∀ built, (b.finishRun m unit run).1 = .ok built →
      ∀ d ∈ built.warnings, d.Reckoned unit.start) ∧
    ∀ failure, (b.finishRun m unit run).1 = .error failure →
      ∀ d ∈ failure.explanation, d.Reckoned unit.start := by
  rcases b.finishRun_cases m unit run with ⟨loaded, ok, -⟩ | failed | ⟨other, failed, kind⟩
  · refine ⟨fun built made => ?_, fun failure error => ?_⟩
    · rw [← Except.ok.inj (ok.symm.trans made)]
      exact counted.reckoned_warnings run
    · cases ok.symm.trans error
  · refine ⟨fun built made => ?_, fun failure error => ?_⟩
    · cases failed.symm.trans made
    · rw [← Except.error.inj (failed.symm.trans error)]
      exact counted.reckoned_complaints run
  · refine ⟨fun built made => ?_, fun failure error d member => ?_⟩
    · cases failed.symm.trans made
    · obtain rfl := Except.error.inj (failed.symm.trans error)
      have single : d ∈ [Diagnostic.ofError other.message] := by
        rcases kind with ⟨shortfall, rfl⟩ | ⟨fault, rfl⟩ <;> exact member
      rw [List.mem_singleton.1 single]
      exact counted.reckoned_ofError _

namespace SourceUnit

variable (template : Template) (names : UnitNames) (expression : String)

/-- **Columns are reckoned without running over.** For every template, all names and every expression,
the place of the expression is counted from one. So for every place that a span can have, the column
of the expression is reckoned in words as it is in numbers without bound, and it is at least one and
at most the column of the place. Every diagnostic of every output is told with this column, or with
none, and so is every one that the user hears of a run of the compiler for the unit. -/
theorem reckoning_exact (small : (named template names).length < UInt64.size) :
    let unit := fill template names expression
    unit.start.Counted ∧
    (∀ l, unit.start.Admits l → unit.start.Reckons l) ∧
    (∀ output, ∀ d ∈ Diagnostic.ofOutput unit.start output, d.Reckoned unit.start) ∧
    ∀ (b : Bench) (m : Machine) (run : Run),
      (∀ built, (b.finishRun m unit run).1 = .ok built →
        ∀ d ∈ built.warnings, d.Reckoned unit.start) ∧
      ∀ failure, (b.finishRun m unit run).1 = .error failure →
        ∀ d ∈ failure.explanation, d.Reckoned unit.start := by
  intro unit
  have counted : unit.start.Counted := counted_start template names expression small
  exact ⟨counted, fun l => counted.reckons, counted.reckoned_ofOutput,
    fun b m run => counted.reckoned_finishRun b m run⟩

/-- The greatest column of all, on the line of an expression that begins at its eighth. -/
theorem reckoning_of_greatest :
    let template : Template := ⟨"// $packageName\n  é $unitName: $expression", by decide +kernel⟩
    let names : UnitNames := ⟨"p", "ü"⟩
    let start := (fill template names "x").start
    let greatest : Location := ⟨2, 18446744073709551615⟩
    (named template names).length < UInt64.size ∧ start.Admits greatest ∧
      start.expressionColumn? greatest = some 18446744073709551608 ∧ start.Reckons greatest := by
  intro template names start greatest
  have small : (named template names).length < UInt64.size := by decide +kernel
  have place : start = ⟨2, 8⟩ := by decide +kernel
  have admitted : start.Admits greatest := by
    rw [place]
    exact ⟨rfl, by decide⟩
  refine ⟨small, admitted, ?_, (reckoning_exact template names "x" small).2.1 greatest admitted⟩
  rw [place]
  decide

end SourceUnit

end Plotter
