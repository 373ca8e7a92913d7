import Plotter.Proofs.Host.Books
import Plotter.Proofs.Request.Result

/-!
# Requests keep the books

A step of a request takes up a run of the compiler, or begins one, or does both. Whatever the run
left, the library is there afterwards just in case an instance was made of it. A request that is
given up leaves its library behind if its run was over by then, for nobody takes it up any more.

## What is proved

* `Workshop.books_advance`: a step of a request keeps the books, and what it adds to the instances
  is what its handle is on.
* `Workshop.books_abandon`: the books after a request is given up.
* `Workshop.books_release`: the books after instances are let go of.
-/

namespace Plotter

/-- The handle that a request has at its end. -/
def Phase.handle : Phase → Handle
  | .done verdict => (Evaluation.mk "" verdict).handle
  | _ => .null

/-- The handle that a request has at its end, if a result is its last. -/
def Workshop.handleOf : Except Failure Verdict → Handle
  | .ok verdict => (Evaluation.mk "" verdict).handle
  | .error _ => .null

/-- The run of the compiler for which a request waits. -/
def Phase.jobs (hosts : List Host) (r : Request) (lands : Bool) : Phase → List Job
  | .compiling _ c =>
    match hosts[r.host]? with
    | some host => [⟨host.bench.scratch, c, lands⟩]
    | none => []
  | _ => []

theorem Phase.jobs_compiling {hosts : List Host} {r : Request} {host : Host}
    (found : hosts[r.host]? = some host) (lands : Bool) (retried : UInt32) (c : Compilation) :
    Phase.jobs hosts r lands (.compiling retried c) = [⟨host.bench.scratch, c, lands⟩] := by
  simp only [Phase.jobs, found]

/-- Whether a run has left something for nobody to take up, if it is given up at a time. -/
def Job.strands (time : Nat) (j : Job) : Bool := (j.compilation.leftAt time).isSome

/-- What is at the place of a unit's library goes with what was made of the unit: there is a library
if the unit was built, and nothing otherwise. -/
def Machine.Suits (m : Machine) (p : Place) (names : UnitNames) : Except Failure BuiltUnit → Prop
  | .ok built => built.loaded.name = names.qualified ∧
      ∃ product, m.at? p = some product ∧ product.isRegular = true
  | .error _ => m.at? p = none

namespace Bench

variable {b : Bench} {m m' : Machine} {c : Compilation} {built : Except Failure BuiltUnit}

/-- What a run leaves is loaded, or it is removed. -/
theorem onlyAt_finishRun (b : Bench) (m : Machine) (unit : SourceUnit) (run : Run) :
    Machine.OnlyAt ⟨b.scratch, Settings.libraryFile unit.names⟩ m (b.finishRun m unit run).2 := by
  have left := m.onlyAt_leave ⟨b.scratch, Settings.libraryFile unit.names⟩ run.left
  simp only [finishRun]
  split
  · simp only [load]
    generalize LoadedUnit.load _ _ _ = result
    cases result with
    | ok loaded => exact left
    | error failure => exact left.trans (Machine.onlyAt_discard _ _)
  · exact left

theorem suits_finishRun {unit : SourceUnit} {run : Run}
    (tidy : ∀ product, run.left = some product →
      run.status.success = true ∧ product.isRegular = true)
    (before : m.at? ⟨b.scratch, Settings.libraryFile unit.names⟩ = none ∨
      m.at? ⟨b.scratch, Settings.libraryFile unit.names⟩ = run.left) :
    (b.finishRun m unit run).2.Suits ⟨b.scratch, Settings.libraryFile unit.names⟩ unit.names
      (b.finishRun m unit run).1 := by
  generalize place : (⟨b.scratch, Settings.libraryFile unit.names⟩ : Place) = p at before ⊢
  have left := Machine.at?_leave before
  have same : b.leave m unit run.left = m.leave p.scratch p.file run.left := by
    rw [← place]
    rfl
  have found (m' : Machine) : m'.product? b.scratch (Settings.libraryFile unit.names) = m'.at? p := by
    rw [← place]
    rfl
  -- What is at the place now is what the run left, so the run succeeded if anything is there.
  have there (product : Product) (h : (m.leave p.scratch p.file run.left).at? p = some product) :
      run.status.success = true ∧ product.isRegular = true := by
    rw [left] at h
    split at h
    · exact tidy product h
    · simp at h
  simp only [finishRun, same, found, Run.compiled]
  cases h : (m.leave p.scratch p.file run.left).at? p with
  | none => simpa [Machine.Suits] using h
  | some product =>
    obtain ⟨success, regular⟩ := there product h
    simp only [success, Option.isSome_some, Bool.and_self, if_true, load, found, h]
    generalize loaded : LoadedUnit.load _ _ _ = result
    rcases LoadedUnit.load_cases loaded with ⟨u, rfl, name⟩ | ⟨shortfall, rfl⟩ | ⟨fault, rfl⟩
    · exact ⟨name, product, h, regular⟩
    · rw [← place] at h ⊢
      exact Machine.at?_discard fun product' h' => (there product' (place ▸ h')).2
    · rw [← place] at h ⊢
      exact Machine.at?_discard fun product' h' => (there product' (place ▸ h')).2

/-- What is made of a run changes nothing but what is at the place of its library. -/
theorem of_finish? {j : Job} (scratch : j.scratch = b.scratch) (tidy : j.compilation.response.Tidy)
    (awaits : m.Awaits j) (finished : b.finish? m j.compilation = some (built, m')) :
    Machine.OnlyAt j.place m m' ∧ m'.Suits j.place j.compilation.unit.names built := by
  obtain ⟨number, c, lands⟩ := j
  obtain rfl : number = b.scratch := scratch
  have waited := m.quiet_waitUntil (c.due?.getD 0)
  have only : Machine.OnlyAt (Job.place ⟨b.scratch, c, lands⟩) m (m.waitUntil (c.due?.getD 0)) :=
    .of_scratches rfl
  have same : (m.waitUntil (c.due?.getD 0)).at? (Job.place ⟨b.scratch, c, lands⟩) =
      m.at? (Job.place ⟨b.scratch, c, lands⟩) := Machine.at?_congr rfl _
  have before := awaits.later tidy same waited.clock
  unfold finish? at finished
  dsimp only at tidy finished
  generalize m.waitUntil (c.due?.getD 0) = waiting at before only finished
  have nothing (unleft : c.leftAt waiting.clock = none) :
      waiting.at? (Job.place ⟨b.scratch, c, lands⟩) = none :=
    before.elim id fun left => left.2.trans unleft
  cases response : c.response with
  | unstarted fault =>
    simp only [response, Option.some.injEq, Prod.mk.injEq] at finished
    obtain ⟨rfl, rfl⟩ := finished
    exact ⟨only, nothing (by simp [Compilation.leftAt, response])⟩
  | started course killed =>
    rw [response] at tidy
    obtain ⟨rfl, kept⟩ := tidy
    cases course with
    | endless => simp [response] at finished
    | deaf fault =>
      simp only [response, Option.some.injEq, Prod.mk.injEq] at finished
      obtain ⟨rfl, rfl⟩ := finished
      exact ⟨only, nothing (by simp [Compilation.leftAt, response])⟩
    | ended run =>
      simp only [response, Option.some.injEq] at finished
      have left : waiting.at? (Job.place ⟨b.scratch, c, lands⟩) = none ∨
          waiting.at? (Job.place ⟨b.scratch, c, lands⟩) = run.left := by
        cases unleft : c.leftAt waiting.clock with
        | none => exact .inl (nothing unleft)
        | some product =>
          have same : c.leftAt waiting.clock = run.left := by
            simp only [Compilation.leftAt, response] at unleft ⊢
            split at unleft
            · simp [*]
            · simp at unleft
          exact before.imp id fun left => left.2.trans same
      have made : (b.finishRun waiting c.unit run).2.Suits (Job.place ⟨b.scratch, c, lands⟩)
          c.unit.names (b.finishRun waiting c.unit run).1 :=
        suits_finishRun (fun product => kept run product rfl) left
      have touched := only.trans (b.onlyAt_finishRun waiting c.unit run)
      rw [finished] at made touched
      exact ⟨touched, made⟩

/-! ### Runs that are given up -/

theorem onlyAt_drop (b : Bench) (m : Machine) (c : Compilation) :
    Machine.OnlyAt ⟨b.scratch, Settings.libraryFile c.unit.names⟩ m (b.drop m c) :=
  m.onlyAt_leave ..

theorem at?_drop
    (before : m.at? ⟨b.scratch, Settings.libraryFile c.unit.names⟩ = none ∨
      m.at? ⟨b.scratch, Settings.libraryFile c.unit.names⟩ = c.leftAt m.clock) :
    (b.drop m c).at? ⟨b.scratch, Settings.libraryFile c.unit.names⟩ =
      if m.hasScratch b.scratch then c.leftAt m.clock else none :=
  Machine.at?_leave before

theorem clock_drop (b : Bench) (m : Machine) (c : Compilation) : (b.drop m c).clock = m.clock := by
  unfold drop leave Machine.leave
  split <;> rfl

/-- A run that lands leaves what it leaves if it is given up at the time. -/
theorem land_eq (b : Bench) (m : Machine) (c : Compilation) :
    b.land m c = m ∨ b.land m c = b.drop m c := by
  unfold land
  split
  · rename_i run killed response
    split
    · rename_i ended
      right
      simp [drop, Compilation.leftAt, response, ended]
    · exact .inl rfl
  · exact .inl rfl

end Bench

namespace Workshop

/-- The books of a workshop: the places of instances are those of the instances that are there. -/
def Books (w : Workshop) (rooms : List Nat) (jobs : List Job) (stranded : List Place) : Prop :=
  w.machine.Books w.names ⟨rooms, w.residents.map Resident.place, jobs, stranded⟩

/-- From one workshop to another, an instance was made just in case there is a handle on it. -/
inductive Gains (w w' : Workshop) (scratch : Nat) : Handle → Prop
  /-- None was made. -/
  | nothing (residents : w'.residents = w.residents) (made : w'.made = w.made) :
      Gains w w' scratch .null
  /-- One was made. -/
  | one {names : UnitNames} {body : Instance}
      (residents : w'.residents =
        w.residents ++ [⟨w.made, scratch, Settings.libraryFile names, body⟩])
      (made : w'.made = w.made + 1) : Gains w w' scratch (.compiled w.made names.qualified)

variable {w w' : Workshop} {r : Request} {host : Host} {rooms : List Nat} {jobs : List Job}
  {stranded : List Place} {lands : Bool} {scratch : Nat}

theorem Gains.trans {w₁ w₂ w₃ : Workshop} {handle : Handle} (h₁ : Gains w₁ w₂ scratch .null)
    (h₂ : Gains w₂ w₃ scratch handle) : Gains w₁ w₃ scratch handle := by
  cases h₁ with
  | nothing residents made =>
    cases h₂ with
    | nothing residents' made' => exact .nothing (residents'.trans residents) (made'.trans made)
    | one residents' made' =>
      rw [made] at residents' made' ⊢
      exact .one (residents'.trans (by rw [residents])) made'

/-- What does not touch the scratch directories keeps the books. -/
theorem Books.same (h : w.Books rooms jobs stranded) (quiet : w.Quiet w')
    (scratches : w'.machine.scratches = w.machine.scratches)
    (residents : w'.residents.map Resident.place = w.residents.map Resident.place) :
    w'.Books rooms jobs stranded := by
  unfold Books
  rw [quiet.names, residents]
  exact Machine.Books.same h scratches quiet.machine (List.Subset.refl _) (.refl _) (.refl _)
    (.refl _)

theorem books_fail (h : w.Books rooms jobs stranded) (r : Request) (failure : Failure) :
    (w.fail r failure).2.Books rooms jobs stranded ∧
      Gains w (w.fail r failure).2 scratch (w.fail r failure).1.handle := by
  have noted : (w.fail r failure).2.machine.scratches = w.machine.scratches ∧
      (w.fail r failure).2.residents = w.residents ∧ (w.fail r failure).2.made = w.made := by
    simp only [fail, noteFailure]
    split <;> exact ⟨rfl, rfl, rfl⟩
  obtain ⟨scratches, residents, made⟩ := noted
  exact ⟨h.same (w.quiet_fail r failure) scratches (by rw [residents]), .nothing residents made⟩

/-- An instance is made of a run, or nothing is left of it. -/
theorem books_end {j : Job} (h : w.Books rooms (j :: jobs) stranded)
    (own : j.scratch = host.bench.scratch) {result : Except Failure Verdict}
    (ended : w.Ends host j.compilation result w') :
    w'.Books rooms jobs stranded ∧ Gains w w' host.bench.scratch (handleOf result) := by
  obtain ⟨built, machine, finished, settled⟩ := ended
  have member : j ∈ j :: jobs := List.mem_cons_self ..
  obtain ⟨only, suits⟩ := Bench.of_finish? own (h.tidy j member)
    ((h.entry j.place).awaited j member rfl) finished
  have quiet := Bench.quiet_finish? finished
  have place : j.place = ⟨host.bench.scratch, Settings.libraryFile j.compilation.unit.names⟩ := by
    rw [← own]
    rfl
  cases built with
  | error failure =>
    obtain ⟨rfl, rfl⟩ := Prod.mk.inj settled
    exact ⟨Machine.Books.vacate h only quiet suits, .nothing rfl rfl⟩
  | ok built =>
    obtain ⟨name, product, there, regular⟩ := suits
    simp only [settle, instantiate, LoadedUnit.instantiate] at settled
    cases constructs : built.loaded.library.constructs with
    | true =>
      simp only [constructs, if_true, lodge, Prod.mk.injEq] at settled
      obtain ⟨rfl, rfl⟩ := settled
      refine ⟨?_, ?_⟩
      · have lodged := Machine.Books.lodge h only quiet there regular
        rw [place] at lodged
        simp only [Books, List.map_append, List.map_cons, List.map_nil]
        exact lodged
      · rw [handleOf, Evaluation.handle, name]
        exact .one rfl rfl
    | false =>
      simp only [constructs, Bool.false_eq_true, if_false, Prod.mk.injEq] at settled
      obtain ⟨rfl, rfl⟩ := settled
      have gone : (machine.discard j.place.scratch j.place.file).at? j.place = none := by
        refine Machine.at?_discard fun product' found => ?_
        obtain rfl := Option.some.inj (there.symm.trans found)
        exact regular
      have vacated := Machine.Books.vacate h (only.trans (machine.onlyAt_discard j.place))
        (quiet.trans (machine.quiet_discard ..)) gone
      rw [place] at vacated
      exact ⟨vacated, .nothing rfl rfl⟩

/-- An attempt begins a run under a fresh name, or comes to nothing at once. -/
theorem books_attempt (h : w.Books rooms jobs stranded) (tidy : w.machine.tool.Tidy)
    (found : w.hosts[r.host]? = some host) {template : Template}
    (kept : host.templates.kept = some template) (retried : UInt32)
    (bound : (w.attempt r host retried).2.machine.attempts.length ≤ UInt64.size) (lands : Bool) :
    (w.attempt r host retried).2.Books rooms
        ((w.attempt r host retried).1.jobs w.hosts r lands ++ jobs) stranded ∧
      Gains w (w.attempt r host retried).2 host.bench.scratch
        (w.attempt r host retried).1.handle := by
  simp only [attempt, prepare_eq found kept] at bound ⊢
  have own : (SourceUnit.fill template w.names.next.1 r.expression).names =
    w.names.namesAt w.names.issued := rfl
  generalize SourceUnit.fill template w.names.next.1 r.expression = unit at bound own ⊢
  let j : Job := ⟨host.bench.scratch, (host.bench.call w.machine unit).1, lands⟩
  have file : j.place.file = w.names.fileAt w.names.issued := congrArg Settings.libraryFile own
  have answered : j.compilation.response.Tidy := Machine.tidy_respond tidy _ _
  have begun (bound : (host.bench.call w.machine unit).2.attempts.length ≤ UInt64.size) :
      (host.bench.call w.machine unit).2.Books w.names.next.2
        ⟨rooms, w.residents.map Resident.place, j :: jobs, stranded⟩ :=
    Machine.Books.begin h rfl rfl (Nat.le_succ _) bound file answered
  cases response : (host.bench.call w.machine unit).1.response with
  | started course killed =>
    simp only [response] at bound ⊢
    simp only [Phase.jobs, found, List.singleton_append]
    exact ⟨begun bound, .nothing rfl rfl⟩
  | unstarted fault =>
    simp only [response] at bound ⊢
    let called : Workshop :=
      { w with names := w.names.next.2, machine := (host.bench.call w.machine unit).2 }
    let failure : Failure := .toolchain (.unstartable host.bench.toolchain.path fault)
    replace begun := begun ((called.quiet_fail r failure).machine.attempts ▸ bound)
    have member : j ∈ j :: jobs := List.mem_cons_self ..
    have nothing : called.machine.at? j.place = none := by
      rcases (begun.entry j.place).awaited j member rfl with nothing | ⟨-, left⟩
      · exact nothing
      · exact left.trans (by simp [j, Compilation.leftAt, response])
    have vacated : called.Books rooms jobs stranded :=
      begun.vacate (.refl j.place _) (.refl _) nothing
    have unchanged : Gains w called host.bench.scratch .null := .nothing rfl rfl
    obtain ⟨failed, unmade⟩ := books_fail vacated r failure
    exact ⟨failed, unchanged.trans unmade⟩

/-- **A step of a request keeps the books.** -/
theorem books_advance (ready : w.Ready) (tidy : w.machine.tool.Tidy) {phase : Phase}
    (h : w.Books rooms (phase.jobs w.hosts r lands ++ jobs) stranded)
    (bound : (w.advance r phase).2.machine.attempts.length ≤ UInt64.size) :
    (w.advance r phase).2.Books rooms ((w.advance r phase).1.jobs w.hosts r lands ++ jobs)
        stranded ∧
      (w.advance r phase = (phase, w) ∨
        ∃ host, w.hosts[r.host]? = some host ∧
          Gains w (w.advance r phase).2 host.bench.scratch (w.advance r phase).1.handle) := by
  have step := w.advances r phase
  generalize w.advance r phase = next at step bound ⊢
  cases step with
  | stuck halted => exact ⟨h, .inl rfl⟩
  | @first host found =>
    obtain ⟨template, kept⟩ := ready host (List.mem_of_getElem? found)
    obtain ⟨books, gains⟩ := books_attempt h tidy found kept 0 bound lands
    exact ⟨books, .inr ⟨host, found, gains⟩⟩
  | @made host _ _ _ _ found ended =>
    rw [Phase.jobs_compiling found] at h
    obtain ⟨books, gains⟩ := books_end h rfl ended
    exact ⟨books, .inr ⟨host, found, gains⟩⟩
  | @again host retried _ failure w' found ended =>
    obtain ⟨template, kept⟩ := ready host (List.mem_of_getElem? found)
    rw [Phase.jobs_compiling found] at h
    obtain ⟨books, gains⟩ := books_end h rfl ended
    have quiet := ended.quiet_note (.retrying failure)
    have noted : (w'.note (.retrying failure)).Books rooms jobs stranded :=
      books.same (w'.quiet_note (.retrying failure)) rfl rfl
    have unmade : Gains w (w'.note (.retrying failure)) host.bench.scratch .null :=
      gains.trans (.nothing rfl rfl)
    obtain ⟨begun, further⟩ := books_attempt noted (quiet.machine.tool.symm ▸ tidy)
      (quiet.hosts.symm ▸ found) kept (retried + 1) bound lands
    rw [quiet.hosts] at begun
    exact ⟨begun, .inr ⟨host, found, unmade.trans further⟩⟩
  | @failed host _ _ failure _ found ended =>
    rw [Phase.jobs_compiling found] at h
    obtain ⟨books, gains⟩ := books_end h rfl ended
    obtain ⟨told, further⟩ := books_fail books r failure
    exact ⟨told, .inr ⟨host, found, gains.trans further⟩⟩

/-- A request has no run to be given up, or one. -/
theorem jobs_cases (w : Workshop) (r : Request) (phase : Phase) (lands : Bool) :
    (phase.jobs w.hosts r lands = [] ∧ w.abandon r phase = w ∧ w.land r phase = w) ∨
      ∃ (host : Host) (c : Compilation),
        phase.jobs w.hosts r lands = [⟨host.bench.scratch, c, lands⟩] ∧
        w.abandon r phase = { w with machine := host.bench.drop w.machine c } ∧
          w.land r phase = { w with machine := host.bench.land w.machine c } := by
  unfold abandon land
  cases found : w.hosts[r.host]? with
  | none => cases phase <;> simp [Phase.jobs, found]
  | some host =>
    cases phase with
    | queued => exact .inl ⟨rfl, rfl, rfl⟩
    | done verdict => exact .inl ⟨rfl, rfl, rfl⟩
    | compiling retried c => exact .inr ⟨host, c, by simp [Phase.jobs, found], rfl, rfl⟩

/-- **A request is given up.** What its run had left by then belongs to nobody from now on. -/
theorem books_abandon {phase : Phase}
    (h : w.Books rooms (phase.jobs w.hosts r lands ++ jobs) stranded) :
    (w.abandon r phase).Books rooms jobs
      (((phase.jobs w.hosts r lands).filter (Job.strands w.machine.clock)).map Job.place ++
        stranded) := by
  rcases w.jobs_cases r phase lands with ⟨jobless, same, -⟩ | ⟨host, c, job, dropped, -⟩
  · rw [jobless] at h ⊢
    rw [same]
    exact h
  · rw [job] at h ⊢
    rw [dropped]
    let j : Job := ⟨host.bench.scratch, c, lands⟩
    have member : j ∈ j :: jobs := List.mem_cons_self ..
    have only : Machine.OnlyAt j.place w.machine (host.bench.drop w.machine c) :=
      host.bench.onlyAt_drop w.machine c
    have quiet := host.bench.quiet_drop w.machine c
    have left : (host.bench.drop w.machine c).at? j.place =
        if w.machine.hasScratch j.place.scratch then c.leftAt w.machine.clock else none :=
      Bench.at?_drop (((h.entry j.place).awaited j member rfl).imp id And.right)
    cases kept : c.leftAt w.machine.clock with
    | none =>
      rw [kept, ite_self] at left
      have unstranded : ¬j.strands w.machine.clock = true := by simp [j, Job.strands, kept]
      rw [List.filter_cons_of_neg unstranded]
      exact Machine.Books.vacate h only quiet left
    | some product =>
      have there : (host.bench.drop w.machine c).hasScratch j.place.scratch = true →
          ((host.bench.drop w.machine c).at? j.place).isSome = true := by
        intro has
        rw [only.scratches] at has
        rw [left, kept, if_pos has]
        rfl
      have stranded : j.strands w.machine.clock = true := by simp [j, Job.strands, kept]
      rw [List.filter_cons_of_pos stranded]
      exact Machine.Books.strand h only quiet there

/-- What a run that is over has left is put in its place. -/
theorem books_land (h : w.Books rooms jobs stranded) {phase : Phase}
    (among : phase.jobs w.hosts r true ⊆ jobs) : (w.land r phase).Books rooms jobs stranded := by
  rcases w.jobs_cases r phase true with ⟨-, -, same⟩ | ⟨host, c, job, -, landed⟩
  · rw [same]
    exact h
  · let j : Job := ⟨host.bench.scratch, c, true⟩
    have member : j ∈ jobs := among (job ▸ List.mem_singleton_self j)
    rw [landed]
    rcases host.bench.land_eq w.machine c with same | dropped
    · rw [same]
      exact h
    · rw [dropped]
      have left : (host.bench.drop w.machine c).at? j.place =
          if w.machine.hasScratch j.place.scratch then c.leftAt w.machine.clock else none :=
        Bench.at?_drop (((h.entry j.place).awaited j member rfl).imp id And.right)
      refine Machine.Books.land_of_mem h member rfl (host.bench.onlyAt_drop w.machine c)
        (host.bench.quiet_drop w.machine c) ?_
      split at left
      · right
        rw [host.bench.clock_drop]
        exact left
      · exact .inl left

/-- Calling an instance leaves its library where it is. -/
theorem books_call (h : w.Books rooms jobs stranded) (handle : Handle) (x : Float) :
    (w.call handle x).2.Books rooms jobs stranded := by
  have quiet := w.quiet_call handle x
  cases handle with
  | null => exact h
  | compiled number unit =>
    simp only [call] at quiet ⊢
    split
    · exact h
    · rename_i resident found
      simp only [found] at quiet
      refine h.same quiet rfl ?_
      simp only [List.map_map]
      refine List.map_congr_left fun r _ => ?_
      simp only [Function.comp]
      split <;> rfl

/-- The libraries of some instances are removed one after the other. -/
theorem books_discard {names : NameSource} {gone kept : List Resident} {m : Machine}
    (h : m.Books names ⟨rooms, (gone ++ kept).map Resident.place, jobs, stranded⟩) :
    (gone.foldl (fun m r => m.discard r.scratch r.file) m).Books names
      ⟨rooms, kept.map Resident.place, jobs, stranded⟩ := by
  induction gone generalizing m with
  | nil => exact h
  | cons r gone ih => exact ih (Machine.Books.discard h)

/-- **Instances are let go of.** Their libraries are removed with them. -/
theorem books_release (h : w.Books rooms jobs stranded) (inUse : Nat → Bool) :
    (w.release inUse).Books rooms jobs stranded := by
  simp only [release, List.partition_eq_filter_filter]
  refine books_discard (Machine.Books.same h rfl (.refl _) (List.Subset.refl _) ?_ (.refl _)
    (.refl _))
  refine List.Perm.map Resident.place (List.perm_append_comm.trans ?_)
  exact List.filter_append_perm (fun r => inUse r.number) w.residents

end Workshop

end Plotter
