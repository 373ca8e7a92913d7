import Plotter.Proofs.Request.Requirements

/-!
# What the user hears of a run

A run that ended gives its unit a library or fails, and its report says why or what is remarked. A
report may hold errors without the run failing, and a run may fail without an error in its report, or
succeed and leave nothing. Here it is said of every run what is told of it: nothing of the report is
left out or doubled, and the only thing that is ever added is one error with the status, when the
report of a run that failed has none.

## What is proved

* `Run.told_complaints`: what is told of a run that failed, and as which kind of fault.
* `Bench.finishRun_exact`: which runs fail, and what the user is told of those and of the others.
* `Trial.Sound.hears`: so the answer to a request tells what is to be heard of its last run.
-/

namespace Plotter

namespace FaultKind

/-- An error without a code does not change the kind of fault. -/
theorem ofDiagnostics_append {ds : List Diagnostic} {d : Diagnostic} (uncoded : d.code = none) :
    ofDiagnostics (ds ++ [d]) = ofDiagnostics ds := by
  simp only [ofDiagnostics, List.any_append, List.any_cons, List.any_nil, uncoded,
    Option.isSome_none, Bool.and_false, Bool.or_false]

theorem ofDiagnostics_eq_typing {ds : List Diagnostic} :
    ofDiagnostics ds = .typing ↔ ∃ d ∈ ds, d.isError = true ∧ d.code.isSome = true := by
  simp only [ofDiagnostics, ite_eq_left_iff, reduceCtorEq, imp_false, not_not, List.any_eq_true,
    Bool.and_eq_true]

theorem ofDiagnostics_eq_syntactic {ds : List Diagnostic} :
    ofDiagnostics ds = .syntactic ↔ ¬∃ d ∈ ds, d.isError = true ∧ d.code.isSome = true := by
  rw [← ofDiagnostics_eq_typing]
  cases ofDiagnostics ds <;> simp

end FaultKind

namespace Run

/-- What is told of a run that failed: the diagnostics of its report in their order, and where none
of them is an error, one more with the status and nothing else. The kind of fault is a matter of the
report alone. -/
structure Told (run : Run) (start : Location) (told : List Diagnostic) : Prop where
  reported : (∃ d ∈ run.diagnostics start, d.isError = true) → told = run.diagnostics start
  unreported : (∀ d ∈ run.diagnostics start, d.isError = false) →
    told = run.diagnostics start ++
      [{ severity := .error, code := none, message := "rustc exited with " ++ run.status.words,
         location := none, expressionColumn := none, rendered := none }]
  typing : FaultKind.ofDiagnostics told = .typing ↔
    ∃ d ∈ run.diagnostics start, d.isError = true ∧ d.code.isSome = true
  syntactic : FaultKind.ofDiagnostics told = .syntactic ↔
    ¬∃ d ∈ run.diagnostics start, d.isError = true ∧ d.code.isSome = true

/-- **What is told of a run that failed.** -/
theorem told_complaints (run : Run) (start : Location) : run.Told start (run.complaints start) := by
  by_cases reported : (run.diagnostics start).any Diagnostic.isError = true
  · have same : run.complaints start = run.diagnostics start := if_pos reported
    rw [same]
    refine ⟨fun _ => rfl, fun harmless => ?_, FaultKind.ofDiagnostics_eq_typing,
      FaultKind.ofDiagnostics_eq_syntactic⟩
    obtain ⟨d, member, error⟩ := List.any_eq_true.1 reported
    exact absurd (harmless d member) (by simp [error])
  · have more : run.complaints start = run.diagnostics start ++ [run.unexplained] := if_neg reported
    have uncoded : run.unexplained.code = none := rfl
    rw [more]
    refine ⟨fun harmful => absurd (List.any_eq_true.2 harmful) reported, fun _ => rfl, ?_, ?_⟩
    · rw [FaultKind.ofDiagnostics_append uncoded, FaultKind.ofDiagnostics_eq_typing]
    · rw [FaultKind.ofDiagnostics_append uncoded, FaultKind.ofDiagnostics_eq_syntactic]

end Run

namespace Bench

variable (b : Bench) (m : Machine) (unit : SourceUnit) (run : Run)

/-- What the run left or what was there before, at the place of the unit's library. -/
def leftover : Option Product := (b.leave m unit run.left).at? (b.placeOf unit)

variable {b m unit run}

theorem finishRun_of_compiled (success : run.status.success = true)
    (there : (b.leftover m unit run).isSome = true) :
    (∃ loaded, (b.finishRun m unit run).1 = .ok ⟨loaded, run.warnings unit.start, run.elapsed⟩) ∨
      ∃ failure, (b.finishRun m unit run).1 = .error failure ∧
        ∀ name told, failure ≠ .compilation name told := by
  have compiled : run.compiled ((b.leave m unit run.left).product? b.scratch
      (Settings.libraryFile unit.names)) = true := by
    rw [Run.compiled, success]
    exact there
  rw [finishRun, if_pos compiled]
  simp only [load]
  generalize loaded : LoadedUnit.load _ _ _ = result
  rcases LoadedUnit.load_cases loaded with ⟨u, rfl, -⟩ | ⟨shortfall, rfl⟩ | ⟨fault, rfl⟩
  · exact .inl ⟨u, rfl⟩
  · exact .inr ⟨_, rfl, by simp⟩
  · exact .inr ⟨_, rfl, by simp⟩

theorem finishRun_of_failed
    (failed : run.status.success = false ∨ b.leftover m unit run = none) :
    (b.finishRun m unit run).1 =
      .error (.compilation unit.names.qualified (run.complaints unit.start)) := by
  have uncompiled : run.compiled ((b.leave m unit run.left).product? b.scratch
      (Settings.libraryFile unit.names)) = false := by
    rw [Run.compiled, Bool.and_eq_false_iff, Option.isSome_eq_false_iff, Option.isNone_iff_eq_none]
    exact failed
  rw [finishRun, uncompiled]
  rfl

/-- A run fails if it does not end with success or nothing is at the place of the library. -/
theorem finishRun_fails_iff {failure : Failure} :
    ((b.finishRun m unit run).1 = .error failure ∧ ∃ name told, failure = .compilation name told) ↔
      (run.status.success = false ∨ b.leftover m unit run = none) ∧
        failure = .compilation unit.names.qualified (run.complaints unit.start) := by
  constructor
  · rintro ⟨result, name, told, rfl⟩
    have failed : run.status.success = false ∨ b.leftover m unit run = none := by
      by_contra compiled
      rw [not_or, Bool.not_eq_false, ← ne_eq, ← Option.isSome_iff_ne_none] at compiled
      rcases finishRun_of_compiled compiled.1 compiled.2 with ⟨loaded, ok⟩ | ⟨failure, error, other⟩
      · rw [ok] at result
        cases result
      · rw [error] at result
        exact other name told (Except.error.inj result)
    rw [finishRun_of_failed failed] at result
    exact ⟨failed, (Except.error.inj result).symm⟩
  · rintro ⟨failed, rfl⟩
    exact ⟨finishRun_of_failed failed, _, _, rfl⟩

/-- **What the user hears of a run.** For every unit, every run that ended and whatever was at the
place of the library before: the unit fails to compile just in case the run did not end with success
or nothing is at the place. The user is told then what the report tells, and of every other run that
gave a library the remarks of the report, which are all its diagnostics but the errors. -/
theorem finishRun_exact (b : Bench) (m : Machine) (unit : SourceUnit) (run : Run) :
    let ds := Diagnostic.ofOutput unit.start (Text.Utf8.decodeLenient run.report)
    let result := (b.finishRun m unit run).1
    ((∃ name told, result = .error (.compilation name told)) ↔
      run.status.success = false ∨ b.leftover m unit run = none) ∧
    (∀ name told, result = .error (.compilation name told) →
      name = unit.names.qualified ∧ run.Told unit.start told ∧
        ∀ expression, (Evaluation.failed expression (.compilation name told)).diagnostics = told) ∧
    ∀ built, result = .ok built → built.warnings = ds.filter fun d => d.severity != .error := by
  intro ds result
  refine ⟨⟨?_, ?_⟩, ?_, fun built made => ?_⟩
  · rintro ⟨name, told, failed⟩
    exact (finishRun_fails_iff.1 ⟨failed, name, told, rfl⟩).1
  · intro failed
    exact ⟨_, _, finishRun_of_failed failed⟩
  · intro name told failed
    have same := (finishRun_fails_iff.1 ⟨failed, name, told, rfl⟩).2
    obtain ⟨rfl, rfl⟩ := Failure.compilation.inj same
    exact ⟨rfl, run.told_complaints unit.start, fun _ => rfl⟩
  · rcases b.finishRun_cases m unit run with ⟨loaded, ok, -⟩ | error | ⟨failure, error, -⟩
    · rw [← Except.ok.inj (ok.symm.trans made)]
      rfl
    · cases error.symm.trans made
    · cases error.symm.trans made

end Bench

/-! ### What the user hears of a trial -/

namespace Trial

variable {t : Trial} {r : Request} {host : Host}

/-- The compiler's run did not compile the unit of a trial. -/
def FailsToCompile (t : Trial) (host : Host) (run : Run) : Prop :=
  (∃ killed, t.compilation.response = .started (.ended run) killed) ∧
    (run.status.success = false ∨
      host.bench.leftover t.resumed.machine t.compilation.unit run = none)

theorem Sound.complains (h : t.Sound r host) {run : Run} (fails : t.FailsToCompile host run) :
    t.result = .error (.compilation t.compilation.unit.names.qualified
      (run.complaints t.compilation.unit.start)) := by
  obtain ⟨⟨killed, response⟩, failed⟩ := fails
  obtain ⟨built, machine, finished, settled⟩ := h.ended
  simp only [Bench.finish?, response, Option.some.injEq] at finished
  have uncompiled : built = _ := (congrArg Prod.fst finished).symm
  rw [Bench.finishRun_of_failed (failed.imp_right fun nothing => by
    rwa [Bench.leftover, at?_leave_waitUntil])] at uncompiled
  rw [uncompiled] at settled
  exact (congrArg Prod.fst settled).symm

theorem Sound.failsToCompile (h : t.Sound r host) {name : String} {told : List Diagnostic}
    (complained : t.result = .error (.compilation name told)) :
    ∃ run, t.FailsToCompile host run := by
  obtain ⟨built, machine, finished, settled⟩ := h.ended
  have result : t.result = _ := (congrArg Prod.fst settled).symm
  cases built with
  | ok built =>
    simp only [Workshop.settle, Workshop.instantiate, LoadedUnit.instantiate] at result
    split at result
    · cases result.symm.trans complained
    · rename_i failure unmade
      split at unmade
      · cases unmade
      · obtain rfl := Except.error.inj unmade
        cases result.symm.trans complained
  | error failure =>
    obtain rfl : failure = .compilation name told := Except.error.inj (result.symm.trans complained)
    unfold Bench.finish? at finished
    split at finished
    · simp at finished
    · simp at finished
    · simp at finished
    · rename_i run killed response
      have built := congrArg Prod.fst (Option.some.inj finished)
      have failed := (Bench.finishRun_fails_iff.1 ⟨built, name, told, rfl⟩).1
      refine ⟨run, ⟨killed, response⟩, failed.imp_right fun nothing => ?_⟩
      rwa [Bench.leftover, at?_leave_waitUntil] at nothing

end Trial

/-- What the user hears of the last trial of a request in the answer: what is told of its run if the
unit was not compiled, and its remarks if the answer is a function. -/
structure Evaluation.Hears (e : Evaluation) (last : Trial) (host : Host) : Prop where
  complained : (∃ name told, e.failure? = some (.compilation name told)) ↔
    ∃ run, last.FailsToCompile host run
  told : ∀ run, last.FailsToCompile host run →
    run.Told last.compilation.unit.start e.diagnostics
  remarked : e.isSuccess = true → ∃ run killed,
    last.compilation.response = .started (.ended run) killed ∧
      e.warnings = (run.diagnostics last.compilation.unit.start).filter fun d => !d.isError

/-- **What the user hears of a trial** is what is to be heard of its run. -/
theorem Trial.Sound.hears {t : Trial} {r : Request} {host : Host} (h : t.Sound r host)
    (expression : String) : (⟨expression, t.verdict⟩ : Evaluation).Hears t host where
  complained := by
    constructor
    · rintro ⟨name, told, failure⟩
      rw [Evaluation.failure?, Trial.verdict] at failure
      cases result : t.result with
      | ok verdict =>
        rcases h.result_cases with ⟨run, killed, number, -, made⟩ | ⟨run, killed, -, error⟩ |
          ⟨other, error, -⟩
        · rw [result] at made failure
          rw [Except.ok.inj made] at failure
          cases failure
        · cases result.symm.trans error
        · cases result.symm.trans error
      | error other =>
        rw [result] at failure
        exact h.failsToCompile (result.trans (congrArg _ (Option.some.inj failure)))
    · rintro ⟨run, fails⟩
      refine ⟨t.compilation.unit.names.qualified, run.complaints t.compilation.unit.start, ?_⟩
      rw [Trial.verdict, h.complains fails]
      rfl
  told := by
    intro run fails
    rw [Trial.verdict, h.complains fails]
    exact run.told_complaints t.compilation.unit.start
  remarked := by
    intro success
    rcases h.result_cases with ⟨run, killed, number, response, made⟩ | ⟨run, killed, -, error⟩ |
      ⟨failure, error, -⟩
    · refine ⟨run, killed, response, ?_⟩
      rw [Trial.verdict, made]
      rfl
    · rw [Trial.verdict, error] at success
      cases success
    · rw [Trial.verdict, error] at success
      cases success

end Plotter
