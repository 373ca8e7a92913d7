import Plotter.Proofs.Session.Attempts

/-!
# The two shapes of an answer

An answer is a function or a failure, and never something between: whatever the compiler does,
and at whatever stage a request fails, the user gets either an instance of the last trial's unit
with nothing to report but warnings, or the null handle with at least one error to read.

## What is proved

* `Moment.answers_exact`: this holds of every answer, be it to a request for which the user waits
  or to a background request whose outcome is taken.
-/

namespace Plotter

namespace Evaluation

/-- The shape of an answer that is a function. -/
structure Succeeded (e : Evaluation) (unit : String) : Prop where
  failure : e.failure? = none
  handle : ∃ number, e.handle = .compiled number unit
  diagnostics : e.diagnostics = []
  text : e.diagnosticText = ""
  elapsed : e.elapsed?.isSome = true
  warnings : ∀ d ∈ e.warnings, d.isError = false

/-- The shape of an answer that is a failure. The null handle is zero at every argument. -/
structure Fails (e : Evaluation) : Prop where
  failure : e.failure?.isSome = true
  handle : e.handle = .null
  zero : ∀ (w : Workshop) (x : Float), w.call e.handle x = (0, w)
  warnings : e.warnings = []
  elapsed : e.elapsed? = none
  diagnostics : ∃ d ∈ e.diagnostics, d.isError = true
  text : e.diagnosticText ≠ ""

/-- No answer has both shapes. -/
theorem Succeeded.not_fails {e : Evaluation} {unit : String} (h : e.Succeeded unit) : ¬e.Fails := by
  intro fails
  have := fails.failure
  rw [h.failure] at this
  simp at this

theorem renderAll_ne_empty {ds : List Diagnostic} {d : Diagnostic} (member : d ∈ ds) :
    Diagnostic.renderAll ds ≠ "" := by
  intro empty
  have lines : (Diagnostic.renderAll ds).toList = [] := by rw [empty]; rfl
  rw [Diagnostic.renderAll, String.toList_join, List.flatMap_eq_nil_iff] at lines
  have line := lines (d.display ++ "\n") (List.mem_map.2 ⟨d, member, rfl⟩)
  simp at line

theorem succeeded_made (expression unit : String) (number elapsed : Nat)
    {warnings : List Diagnostic} (h : ∀ d ∈ warnings, d.isError = false) :
    (⟨expression, .made number unit warnings elapsed⟩ : Evaluation).Succeeded unit where
  failure := rfl
  handle := ⟨number, rfl⟩
  diagnostics := rfl
  text := rfl
  elapsed := rfl
  warnings := h

theorem fails_of_explained (expression : String) {failure : Failure} (h : failure.Explained) :
    (failed expression failure).Fails where
  failure := rfl
  handle := rfl
  zero := fun _ _ => rfl
  warnings := rfl
  elapsed := rfl
  diagnostics := List.any_eq_true.1 h
  text := by
    obtain ⟨d, member, -⟩ := List.any_eq_true.1 h
    exact renderAll_ne_empty member

end Evaluation

/-- An answer has exactly one of the two shapes. -/
def Evaluation.TwoShaped (e : Evaluation) (unit : String) : Prop :=
  (e.Succeeded unit ∧ ¬e.Fails) ∨ (e.Fails ∧ ¬e.Succeeded unit)

/-- The last trial of a request gives its answer one of the two shapes. -/
theorem Trial.Sound.twoShaped {t : Trial} {r : Request} {host : Host} (h : t.Sound r host)
    (expression : String) :
    (⟨expression, t.verdict⟩ : Evaluation).TwoShaped t.compilation.unit.names.qualified := by
  cases result : t.result with
  | ok verdict =>
    rcases h.result_cases with ⟨run, killed, number, -, made⟩ | ⟨run, killed, -, complaint⟩ |
      ⟨failure, failed, -⟩
    · have remarks : ∀ d ∈ run.warnings t.compilation.unit.start, d.isError = false :=
        fun d member => Run.not_isError_of_mem_warnings member
      have succeeded := Evaluation.succeeded_made expression t.compilation.unit.names.qualified
        number run.elapsed remarks
      simp only [Trial.verdict, made]
      exact .inl ⟨succeeded, succeeded.not_fails⟩
    · simp [result] at complaint
    · simp [result] at failed
  | error failure =>
    have fails := Evaluation.fails_of_explained expression (h.explained result)
    simp only [Trial.verdict, result]
    exact .inr ⟨fails, fun succeeded => succeeded.not_fails fails⟩

theorem Account.twoShaped {r : Request} {host : Host} {turns : List (Workshop × Workshop)}
    {trials : List Trial} {last : Trial} {verdict : Verdict}
    (h : Account r host turns trials last verdict) (expression : String) :
    (⟨expression, verdict⟩ : Evaluation).TwoShaped last.compilation.unit.names.qualified := by
  rw [h.decided]
  exact (h.sound last (List.mem_of_getLast? h.isLast)).twoShaped expression

namespace Moment

variable {w : Workshop} {host : Host}

/-- **The two shapes of an answer.** For every host and every compiler, in every session: the
answer to a request for which the user waits, and the outcome of a background request that was
not stopped, is a function or a failure. A function is one of the unit of the last trial. -/
theorem answers_exact (furnished : w.Furnished) (earlier : List Event) {r : Request}
    (found : w.hosts[r.host]? = some host) :
    (∀ s, (first w).after earlier = ⟨s, none⟩ → ∀ waiting e s',
      s.evaluate r waiting = (some e, s') →
        ∃ later trials last,
          (⟨s, some (r, .queued)⟩ : Moment).after later = ⟨s', some (r, .done e.verdict)⟩ ∧
            Account r host (turns .user ⟨s, some (r, .queued)⟩ later) trials last e.verdict ∧
              e.expression = r.expression ∧
                e.TwoShaped last.compilation.unit.names.qualified) ∧
      ∀ n later e, ((first w).after earlier).standing? (.task n) = some (r, .queued) →
        ((((first w).after earlier).after later).session.take n).1 = some (.ready e) →
          ∃ trials last,
            Account r host (turns (.task n) ((first w).after earlier) later) trials last e.verdict ∧
              e.expression = r.expression ∧
                e.TwoShaped last.compilation.unit.names.qualified := by
  constructor
  · intro s reached waiting e s' answered
    obtain ⟨later, trials, last, -, pursued, account, expression⟩ :=
      account_evaluate furnished reached found answered
    exact ⟨later, trials, last, pursued, account, expression, account.twoShaped e.expression⟩
  · intro n later e queued taken
    obtain ⟨r', standing, expression⟩ := standing?_of_take taken
    obtain ⟨rfl, -⟩ := history_after furnished earlier later found queued (by simp) standing
    obtain ⟨trials, last, account⟩ :=
      (account_after furnished earlier later found queued (by simp) standing).1 e.verdict rfl
    exact ⟨trials, last, account, expression, account.twoShaped e.expression⟩

theorem answer_of_flaky :
    ∃ e s' unit,
      ({ workshop := .bare flaky 3 } : Session).evaluate ⟨0, "x"⟩ false = (some e, s') ∧
        e.Succeeded unit := by
  let s : Session := { workshop := .bare flaky 3 }
  have success : (s.evaluate ⟨0, "x"⟩ false).1.any Evaluation.isSuccess = true := by
    decide +kernel
  obtain ⟨e, answer, made⟩ := (Option.any_eq_true ..).1 success
  have answered : s.evaluate ⟨0, "x"⟩ false = (some e, (s.evaluate ⟨0, "x"⟩ false).2) := by
    rw [← answer]
  obtain ⟨later, trials, last, -, -, -, shape⟩ :=
    (answers_exact (Workshop.furnished_bare flaky 3) [] (r := ⟨0, "x"⟩) rfl).1 s rfl false e _
      answered
  rcases shape with ⟨succeeded, -⟩ | ⟨fails, -⟩
  · exact ⟨e, _, _, answered, succeeded⟩
  · have failure := fails.failure
    rw [Evaluation.isSuccess, Option.isNone_iff_eq_none] at made
    rw [made] at failure
    simp at failure

end Moment

end Plotter
