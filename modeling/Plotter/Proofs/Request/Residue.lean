import Plotter.Proofs.Request.Complaints
import Plotter.Proofs.Request.Leavings

/-!
# What a request that fails has left

A run of the compiler may leave something at the place of its library whatever comes of it. If the
run ended with success and nothing is made of what it left, a regular file is removed there. It is
not removed if the run did not end with success, or was killed because it did not take its source
(`Compilation.residue`).

## What is proved

* `Workshop.Ends.residue`: what is at the place of a run of which nothing was made.
* `Workshop.at?_advance_own`, `Workshop.at?_advance_other`: what a step of a request that makes no
  instance does to the files.
* `Workshop.fresh_advance`: a run that begins in a step has a name that was given to no file.
-/

namespace Plotter

/-- What stays at the place of a run of which nothing is made. -/
def Compilation.residue (c : Compilation) : Option Product :=
  match c.response with
  | .started (.ended run) _ =>
    if run.status.success then run.left.filter fun product => !product.isRegular else run.left
  | .started (.deaf _) killed => killed
  | _ => none

namespace Response

/-- What is left of a run that is over. -/
def leavings : Response → Option Product
  | .started (.ended run) _ => run.left
  | .started (.deaf _) killed => killed
  | _ => none

/-- A run leaves nothing, or a regular file. -/
def LeavesFile (answer : Response) : Prop :=
  ∀ product, answer.leavings = some product → product.isRegular = true

/-- A run ended with success. -/
def Succeeds : Response → Prop
  | .started (.ended run) _ => run.status.success = true
  | _ => False

end Response

theorem Response.Succeeds.isStarted {answer : Response} (h : answer.Succeeds) :
    answer.isStarted = true := by
  cases answer with
  | unstarted fault => cases h
  | started course killed => rfl

/-- **Nothing stays of a run that left no more than a file** just in case it left nothing or ended
with success. -/
theorem Compilation.residue_eq_none_iff {c : Compilation} (file : c.response.LeavesFile) :
    c.residue = none ↔ c.response.leavings = none ∨ c.response.Succeeds := by
  unfold residue
  cases response : c.response with
  | unstarted fault => simp [Response.leavings]
  | started course killed =>
    cases course with
    | endless => simp [Response.leavings]
    | deaf fault => simp [Response.leavings, Response.Succeeds]
    | ended run =>
      rw [response] at file
      simp only [Response.leavings, Response.Succeeds]
      split
      · rename_i success
        simp only [success, or_true, iff_true]
        rw [Option.filter_eq_none_iff]
        intro product left
        simp [file product left]
      · rename_i failure
        simp [failure]

/-- Nothing stays where the compiler was not started. -/
theorem Compilation.residue_of_unstarted {c : Compilation} (h : c.response.isStarted = false) :
    c.residue = none := by
  unfold residue
  cases response : c.response with
  | unstarted fault => rfl
  | started course killed => simp [response, Response.isStarted] at h

/-- A trial whose library could not be loaded had a run that ended with success. -/
theorem Trial.Sound.succeeds {t : Trial} {r : Request} {host : Host} (h : t.Sound r host)
    (fails : t.failsToLoad = true) : t.compilation.response.Succeeds := by
  obtain ⟨built, machine, finished, settled⟩ := h.ended
  have result : t.result = _ := (congrArg Prod.fst settled).symm
  simp only [Bench.finish?] at finished
  split at finished
  · obtain ⟨rfl, rfl⟩ := Prod.mk.inj (Option.some.inj finished)
    simp [failsToLoad, result, Workshop.settle, Failure.isLoading] at fails
  · cases finished
  · obtain ⟨rfl, rfl⟩ := Prod.mk.inj (Option.some.inj finished)
    simp [failsToLoad, result, Workshop.settle, Failure.isLoading] at fails
  · rename_i run killed response
    rw [response]
    by_contra unsuccessful
    have failed : run.status.success = false := by simpa [Response.Succeeds] using unsuccessful
    have complaint := h.complains ⟨⟨killed, response⟩, .inl failed⟩
    simp [failsToLoad, complaint, Failure.isLoading] at fails

/-- What is at a place where something was to be removed: nothing, or a directory. -/
theorem Machine.at?_discard_self (m : Machine) (p : Place) :
    (m.discard p.scratch p.file).at? p = (m.at? p).filter fun product => !product.isRegular := by
  unfold discard
  split
  · rename_i nothing
    have vacant : m.at? p = none := nothing
    rw [vacant]
    rfl
  · rename_i directory
    have there : m.at? p = some .directory := directory
    have noted (notice : Notice) : (m.note notice).at? p = m.at? p := rfl
    rw [noted, there]
    rfl
  · rename_i product other found
    have there : m.at? p = some product := found
    have regular : product.isRegular = true := by
      cases product with
      | directory => exact absurd rfl other
      | _ => rfl
    rw [there, Option.filter_some, regular]
    simp only [at?, product?, scratch?_changeScratch_self]
    cases m.scratch? p.scratch with
    | none => rfl
    | some s => exact lookup_without_self p.file s.contents

namespace Bench

variable {b : Bench} {m m' : Machine} {c : Compilation} {unit : SourceUnit} {run : Run}
  {built : Except Failure BuiltUnit}

/-- There is nothing at the place of a call, or what its run left, in a scratch directory that is
there. -/
structure Clear (b : Bench) (m : Machine) (c : Compilation) : Prop where
  there : m.hasScratch b.scratch = true
  own : m.at? (b.placeOf c.unit) = none ∨
    m.at? (b.placeOf c.unit) = Job.left ⟨b.scratch, c, false⟩

theorem Clear.waitUntil (h : b.Clear m c) (time : Nat) : b.Clear (m.waitUntil time) c :=
  ⟨h.there, h.own⟩

/-- What a run left is what is then at its place. -/
theorem Clear.at?_leave (h : b.Clear m c) {killed : Option Product}
    (response : c.response = .started (.ended run) killed) :
    (b.leave m c.unit run.left).at? (b.placeOf c.unit) = run.left := by
  have left : Job.left ⟨b.scratch, c, false⟩ = run.left := by simp only [Job.left, response]
  have own := h.own
  rw [left] at own
  have put := Machine.at?_leave own
  rwa [placeOf, h.there, if_pos rfl] at put

/-- What stays at the place of a call, be it that nothing was built or that what was built goes. -/
def Stays (b : Bench) (m : Machine) (c : Compilation) : Except Failure BuiltUnit → Prop
  | .ok _ => (m.at? (b.placeOf c.unit)).filter (fun product => !product.isRegular) = c.residue
  | .error _ => m.at? (b.placeOf c.unit) = c.residue

/-- **What stays once a run has ended.** -/
theorem Clear.at?_finishRun (h : b.Clear m c) {killed : Option Product}
    (response : c.response = .started (.ended run) killed)
    (finished : b.finishRun m c.unit run = (built, m')) : b.Stays m' c built := by
  have put := h.at?_leave response
  have residue : c.residue =
      if run.status.success then run.left.filter fun product => !product.isRegular
      else run.left := by
    simp only [Compilation.residue, response]
  simp only [finishRun] at finished
  split at finished
  · rename_i compiled
    rw [Run.compiled, Bool.and_eq_true] at compiled
    rw [if_pos compiled.1, ← put] at residue
    simp only [load] at finished
    generalize LoadedUnit.load _ _ _ = loaded at finished
    cases loaded with
    | ok loaded =>
      obtain ⟨rfl, rfl⟩ := Prod.mk.inj finished
      exact residue.symm
    | error failure =>
      obtain ⟨rfl, rfl⟩ := Prod.mk.inj finished
      exact (Machine.at?_discard_self _ (b.placeOf c.unit)).trans residue.symm
  · rename_i uncompiled
    obtain ⟨rfl, rfl⟩ := Prod.mk.inj finished
    refine put.trans (Eq.trans ?_ residue.symm)
    split
    · rename_i success
      rw [Run.compiled, success, Bool.true_and, Option.not_isSome_iff_eq_none] at uncompiled
      have nothing : run.left = none := put.symm.trans uncompiled
      rw [nothing]
      rfl
    · rfl

theorem Clear.at?_finish? (h : b.Clear m c) (finished : b.finish? m c = some (built, m')) :
    b.Stays m' c built := by
  simp only [finish?] at finished
  have waited := h.waitUntil (c.due?.getD 0)
  have unended (nothing : Job.left ⟨b.scratch, c, false⟩ = none) :
      (m.waitUntil (c.due?.getD 0)).at? (b.placeOf c.unit) = none := by
    have own := waited.own
    rw [nothing] at own
    exact own.elim id id
  split at finished
  · rename_i fault response
    obtain ⟨rfl, rfl⟩ := Prod.mk.inj (Option.some.inj finished)
    simp only [Stays, Compilation.residue, response]
    exact unended (by simp only [Job.left, response])
  · cases finished
  · rename_i fault killed response
    obtain ⟨rfl, rfl⟩ := Prod.mk.inj (Option.some.inj finished)
    simp only [Stays, Compilation.residue, response]
    have vacant := unended (by simp only [Job.left, response])
    have put := Machine.at?_leave (p := b.placeOf c.unit)
      (.inl vacant : _ ∨ Machine.at? _ _ = killed)
    rwa [placeOf, waited.there, if_pos rfl] at put
  · rename_i run killed response
    exact waited.at?_finishRun response (Option.some.inj finished)

end Bench

namespace Workshop

variable {w w' : Workshop} {r : Request} {host : Host} {phase : Phase} {p : Place}

/-- **What stays at the place of a run of which nothing was made.** -/
theorem Ends.residue {c : Compilation} {failure : Failure}
    (h : w.Ends host c (.error failure) w') (clear : host.bench.Clear w.machine c) :
    w'.machine.at? (host.bench.placeOf c.unit) = c.residue := by
  obtain ⟨built, machine, finished, settled⟩ := h
  have left := clear.at?_finish? finished
  cases built with
  | error failure =>
    obtain ⟨-, rfl⟩ := Prod.mk.inj settled
    exact left
  | ok built =>
    simp only [settle, instantiate] at settled
    split at settled
    · cases (Prod.mk.inj settled).1
    · obtain ⟨-, rfl⟩ := Prod.mk.inj settled
      rw [← left]
      exact Machine.at?_discard_self _ (host.bench.placeOf c.unit)

/-- A step of a request changes no files but those at the place of the run for which it waited. -/
theorem at?_advance_other (ready : w.Ready) (found : w.hosts[r.host]? = some host)
    (other : ∀ retried c, phase = .compiling retried c → host.bench.placeOf c.unit ≠ p) :
    (w.advance r phase).2.machine.at? p = w.machine.at? p := by
  have step := w.advances r phase
  generalize w.advance r phase = next at step ⊢
  have own {host' : Host} (found' : w.hosts[r.host]? = some host') : host' = host :=
    Option.some.inj (found'.symm.trans found)
  have elsewhere {retried : UInt32} {c : Compilation} {result : Except Failure Verdict}
      {w' : Workshop} (same : phase = .compiling retried c) (ended : w.Ends host c result w') :
      w'.machine.at? p = w.machine.at? p :=
    (ended.onlyAt false).elsewhere p (other retried c same).symm
  cases step with
  | stuck halted => rfl
  | first found' =>
    obtain rfl := own found'
    obtain ⟨template, kept⟩ := ready _ (List.mem_of_getElem? found)
    exact Machine.at?_congr (scratches_attempt found kept 0) p
  | made found' ended =>
    obtain rfl := own found'
    exact elsewhere rfl ended
  | @again _ retried _ failure w' found' ended =>
    obtain rfl := own found'
    obtain ⟨template, kept⟩ := ready _ (List.mem_of_getElem? found)
    have quiet := ended.quiet_note (.retrying failure)
    have same : w'.machine.at? p = w.machine.at? p := elsewhere rfl ended
    rw [Machine.at?_congr (scratches_attempt (quiet.hosts.symm ▸ found) kept (retried + 1))]
    exact same
  | @failed _ _ _ failure w' found' ended =>
    obtain rfl := own found'
    rw [Machine.at?_congr (scratches_fail w' r failure)]
    exact elsewhere rfl ended

/-- **A step of a request that makes no instance leaves what stays of its run.** -/
theorem at?_advance_own (ready : w.Ready) (found : w.hosts[r.host]? = some host) {retried : UInt32}
    {c : Compilation} (moves : (Phase.compiling retried c).moves = true)
    (clear : host.bench.Clear w.machine c)
    (unmade : ∀ number unit warnings elapsed,
      (w.advance r (.compiling retried c)).1 ≠ .done (.made number unit warnings elapsed)) :
    (w.advance r (.compiling retried c)).2.machine.at? (host.bench.placeOf c.unit) = c.residue := by
  have step := w.advances r (.compiling retried c)
  generalize w.advance r (.compiling retried c) = next at step unmade ⊢
  have own {host' : Host} (found' : w.hosts[r.host]? = some host') : host' = host :=
    Option.some.inj (found'.symm.trans found)
  cases step with
  | stuck halted => cases found.symm.trans (halted moves)
  | @made _ _ _ verdict _ found' ended =>
    obtain ⟨built, machine, -, settled⟩ := ended
    cases built with
    | error failure => cases (Prod.mk.inj settled).1
    | ok built =>
      simp only [settle, instantiate] at settled
      split at settled
      · rw [← Except.ok.inj (Prod.mk.inj settled).1] at unmade
        exact absurd rfl (unmade _ _ _ _)
      · cases (Prod.mk.inj settled).1
  | @again _ _ _ failure w' found' ended =>
    obtain rfl := own found'
    obtain ⟨template, kept⟩ := ready _ (List.mem_of_getElem? found)
    have quiet := ended.quiet_note (.retrying failure)
    rw [Machine.at?_congr (scratches_attempt (quiet.hosts.symm ▸ found) kept (retried + 1))]
    exact ended.residue clear
  | @failed _ _ _ failure w' found' ended =>
    obtain rfl := own found'
    rw [Machine.at?_congr (scratches_fail w' r failure)]
    exact ended.residue clear

/-- An attempt whose run begins is the beginning of a trial. -/
theorem begun_attempt (found : w.hosts[r.host]? = some host) {template : Template}
    (kept : host.templates.kept = some template) {retried counter : UInt32} {c : Compilation}
    (begun : (w.attempt r host retried).1 = .compiling counter c) :
    c = (w.commence r host template counter).compilation ∧
      (w.attempt r host retried).2 = (w.commence r host template counter).begun := by
  rw [attempt_eq found kept] at begun ⊢
  split at begun
  · cases begun
  · obtain ⟨rfl, rfl⟩ := Phase.compiling.inj begun
    exact ⟨rfl, rfl⟩

/-- **A run that begins in a step of a request** is that of a trial, before which nothing was asked
of the compiler. -/
theorem begun_advance (ready : w.Ready) (found : w.hosts[r.host]? = some host)
    (moves : phase.moves = true) {counter : UInt32} {c : Compilation}
    (begun : (w.advance r phase).1 = .compiling counter c) :
    ∃ (v : Workshop) (template : Template), w.Quiet v ∧ host.templates.kept = some template ∧
      c = (v.commence r host template counter).compilation ∧
        (w.advance r phase).2 = (v.commence r host template counter).begun := by
  obtain ⟨template, kept⟩ := ready _ (List.mem_of_getElem? found)
  have step := w.advances r phase
  generalize w.advance r phase = next at step begun ⊢
  have own {host' : Host} (found' : w.hosts[r.host]? = some host') : host' = host :=
    Option.some.inj (found'.symm.trans found)
  cases step with
  | stuck halted => cases found.symm.trans (halted moves)
  | first found' =>
    obtain rfl := own found'
    exact ⟨w, template, .refl w, kept, begun_attempt found kept begun⟩
  | made found' ended => cases begun
  | @again _ retried _ failure w' found' ended =>
    obtain rfl := own found'
    have quiet := ended.quiet_note (.retrying failure)
    exact ⟨_, template, quiet, kept, begun_attempt (quiet.hosts.symm ▸ found) kept begun⟩
  | failed found' ended => cases begun

/-- **A run that begins in a step has a file name that was given to no file.** -/
theorem fresh_advance {jobs : List Job} (ledger : w.Ledger jobs) (ready : w.Ready)
    (found : w.hosts[r.host]? = some host) (moves : phase.moves = true)
    (bound : (w.advance r phase).2.machine.attempts.length ≤ UInt64.size) {counter : UInt32}
    {c : Compilation} (begun : (w.advance r phase).1 = .compiling counter c) :
    ¬w.machine.Named w.names (host.bench.placeOf c.unit).file := by
  obtain ⟨v, template, quiet, kept, rfl, after⟩ := begun_advance ready found moves begun
  have before : (v.commence r host template counter).before.machine.attempts =
      w.machine.attempts := quiet.machine.attempts
  rw [after, (commence_sound kept counter).called, before] at bound
  have file : (host.bench.placeOf (v.commence r host template counter).compilation.unit).file =
      w.names.fileAt w.names.issued := by
    rw [← quiet.names]
    rfl
  rw [file]
  exact Machine.Ledger.not_named_of_next ledger bound

end Workshop

end Plotter
