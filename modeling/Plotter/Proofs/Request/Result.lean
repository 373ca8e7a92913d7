import Plotter.Proofs.Request.Trial

/-!
# What a trial results in

The result of a trial is that of its own call: an instance of the unit that it compiled, with
the warnings in the report of its run, or the reason why there is none. Whatever the reason is,
there is an error to tell the user.
-/

namespace Plotter

variable {b : Bench} {m m' : Machine} {c : Compilation} {unit : SourceUnit} {run : Run}

namespace Run

/-- A run that did not compile its unit has an error to show, if only that it ended as it did. -/
theorem any_isError_complaints (r : Run) (start : Location) :
    (r.complaints start).any Diagnostic.isError = true := by
  simp only [complaints]
  split
  · assumption
  · rw [List.any_append]
    simp [unexplained, Diagnostic.ofError, Diagnostic.isError]

/-- Errors are no warnings. -/
theorem not_isError_of_mem_warnings {r : Run} {start : Location} {d : Diagnostic}
    (h : d ∈ r.warnings start) : d.isError = false := by
  simpa using (List.mem_filter.1 h).2

end Run

/-- A failure for which there is an error to tell the user. -/
def Failure.Explained (failure : Failure) : Prop :=
  failure.explanation.any Diagnostic.isError = true

/-- Every failure is explained by its message, unless the compiler explains it. -/
theorem Failure.explained_of {failure : Failure}
    (h : ∀ unit ds, failure = .compilation unit ds → ds.any Diagnostic.isError = true) :
    failure.Explained := by
  cases failure with
  | compilation unit ds => exact h unit ds rfl
  | _ => rfl

/-- What may come of loading a library. -/
theorem LoadedUnit.load_cases {name path : String} {left : Option Product}
    {result : Except Failure LoadedUnit} (h : load name path left = result) :
    (∃ loaded, result = .ok loaded ∧ loaded.name = name) ∨
      (∃ shortfall, result = .error (.capability name shortfall)) ∨
      ∃ fault, result = .error (.loading fault) := by
  unfold load at h
  split at h
  · exact .inr (.inr ⟨_, h.symm⟩)
  · split at h
    · split at h
      · exact .inr (.inl ⟨_, h.symm⟩)
      · exact .inl ⟨_, h.symm, rfl⟩
    · exact .inr (.inr ⟨_, h.symm⟩)

/-- What may come of a run that ended. -/
theorem Bench.finishRun_cases (b : Bench) (m : Machine) (unit : SourceUnit) (run : Run) :
    (∃ loaded, (b.finishRun m unit run).1 = .ok ⟨loaded, run.warnings unit.start, run.elapsed⟩ ∧
        loaded.name = unit.names.qualified) ∨
      (b.finishRun m unit run).1 =
        .error (.compilation unit.names.qualified (run.complaints unit.start)) ∨
      ∃ failure, (b.finishRun m unit run).1 = .error failure ∧
        ((∃ shortfall, failure = .capability unit.names.qualified shortfall) ∨
          ∃ fault, failure = .loading fault) := by
  simp only [finishRun]
  split
  · simp only [Bench.load]
    generalize loaded : LoadedUnit.load _ _ _ = result
    rcases LoadedUnit.load_cases loaded with ⟨u, rfl, name⟩ | ⟨shortfall, rfl⟩ | ⟨fault, rfl⟩
    · exact .inl ⟨u, rfl, name⟩
    · exact .inr (.inr ⟨_, rfl, .inl ⟨shortfall, rfl⟩⟩)
    · exact .inr (.inr ⟨_, rfl, .inr ⟨fault, rfl⟩⟩)
  · exact .inr (.inl rfl)

namespace Trial.Sound

variable {t : Trial} {r : Request} {host : Host}

/-- The result of a trial is that of its own call. -/
theorem result_cases (h : t.Sound r host) :
    (∃ run killed number, t.compilation.response = .started (.ended run) killed ∧
        t.result = .ok (.made number t.compilation.unit.names.qualified
          (run.warnings t.compilation.unit.start) run.elapsed)) ∨
      (∃ run killed, t.compilation.response = .started (.ended run) killed ∧
        t.result = .error (.compilation t.compilation.unit.names.qualified
          (run.complaints t.compilation.unit.start))) ∨
      ∃ failure, t.result = .error failure ∧ ∀ unit ds, failure ≠ .compilation unit ds := by
  obtain ⟨built, machine, finished, settled⟩ := h.ended
  have failed {failure : Failure} (error : built = .error failure) :
      t.result = .error failure := by
    subst error
    exact (congrArg Prod.fst settled).symm
  unfold Bench.finish? at finished
  cases answer : t.compilation.response with
  | unstarted fault =>
    simp only [answer, Option.some.injEq, Prod.mk.injEq] at finished
    exact .inr (.inr ⟨_, failed finished.1.symm, by simp⟩)
  | started course killed =>
    cases course with
    | endless => simp [answer] at finished
    | deaf fault =>
      simp only [answer, Option.some.injEq, Prod.mk.injEq] at finished
      exact .inr (.inr ⟨_, failed finished.1.symm, by simp⟩)
    | ended run =>
      simp only [answer, Option.some.injEq] at finished
      have same := congrArg Prod.fst finished
      dsimp only at same
      rcases Bench.finishRun_cases host.bench _ t.compilation.unit run with
        ⟨loaded, built', name⟩ | complaint | ⟨failure, error, other⟩
      · rw [built'] at same
        subst same
        have result := (congrArg Prod.fst settled).symm
        simp only [Workshop.settle, Workshop.instantiate] at result
        split at result
        · exact .inl ⟨run, killed, _, rfl, name ▸ result⟩
        · rename_i failure unmade
          refine .inr (.inr ⟨failure, result, ?_⟩)
          simp only [LoadedUnit.instantiate] at unmade
          split at unmade
          · simp at unmade
          · rw [← Except.error.inj unmade]
            simp
      · exact .inr (.inl ⟨run, killed, rfl, failed (same.symm.trans complaint)⟩)
      · refine .inr (.inr ⟨failure, failed (same.symm.trans error), ?_⟩)
        rcases other with ⟨shortfall, rfl⟩ | ⟨fault, rfl⟩ <;> simp

/-- A failure is explained to the user. -/
theorem explained (h : t.Sound r host) {failure : Failure} (failed : t.result = .error failure) :
    failure.Explained := by
  refine Failure.explained_of fun unit ds same => ?_
  rcases h.result_cases with ⟨run, killed, number, -, made⟩ | ⟨run, killed, -, complaint⟩ |
    ⟨failure', other, uncomplained⟩
  · rw [made] at failed
    simp at failed
  · rw [complaint] at failed
    obtain ⟨-, rfl⟩ := Failure.compilation.inj ((Except.error.inj failed).trans same)
    exact run.any_isError_complaints _
  · rw [other] at failed
    exact absurd ((Except.error.inj failed).trans same) (uncomplained unit ds)

end Trial.Sound

end Plotter
