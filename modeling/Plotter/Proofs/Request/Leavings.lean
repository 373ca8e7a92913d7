import Plotter.Proofs.Request.Upkeep

/-!
# Whose leavings are where

The compiler may leave anything where it was told to put a library: a library or something else, and
also when it fails or is killed. What a host finds there is nevertheless what its own run left. Each
run under way has a place of its own, since its file is named for names that were given to no other
unit, and nothing but the run writes there (`Machine.Ledger`).

The ledger is to the books of a workshop (`Machine.Books`) what this is to all that is in scratch
directories. It says less, of every compiler.

## What is proved

* `Machine.Ledger.change`: what keeps the ledger of a machine.
* `Workshop.ledger_advance`: a step of a request keeps the ledger.
* `Workshop.ledger_abandon`, `Workshop.ledger_land`, `Workshop.ledger_release`: so does the end of a
  run of which nobody makes anything, and so does all that only removes files.
-/

namespace Plotter

/-- What a run leaves that ends by itself. -/
def Job.left (j : Job) : Option Product :=
  match j.compilation.response with
  | .started (.ended run) _ => run.left
  | _ => none

namespace Machine

/-- A file is named for a unit for which there was an attempt. -/
def Named (m : Machine) (names : NameSource) (file : String) : Prop :=
  ∃ serial < m.attempts.length, file = names.fileAt (.ofNat serial)

/-- Every run under way has a place of its own. -/
structure Ledger (m : Machine) (names : NameSource) (jobs : List Job) : Prop where
  issued : names.issued = UInt64.ofNat m.attempts.length
  /-- No two runs have one place. -/
  distinct : (jobs.map Job.place).Nodup
  named : ∀ j ∈ jobs, m.Named names j.place.file
  filed : ∀ p, (m.at? p).isSome = true → m.Named names p.file
  /-- There is nothing at the place of a run, or it is over and there is what it left. -/
  left : ∀ j ∈ jobs, m.at? j.place = none ∨
    j.compilation.isOver m.clock = true ∧ m.at? j.place = j.left

/-- To discard a file removes it, or leaves it. -/
theorem at?_discard_cases (m : Machine) (p q : Place) :
    (m.discard p.scratch p.file).at? q = m.at? q ∨ (m.discard p.scratch p.file).at? q = none := by
  by_cases own : q = p
  · subst own
    unfold discard
    split
    · exact .inl rfl
    · exact .inl rfl
    · right
      simp only [at?, product?, scratch?_changeScratch_self]
      cases m.scratch? q.scratch with
      | none => rfl
      | some s => exact lookup_without_self q.file s.contents
  · exact .inl ((m.onlyAt_discard p).elsewhere q own)

namespace Ledger

variable {m m' : Machine} {names : NameSource} {jobs jobs' : List Job} {j : Job}

theorem own (h : m.Ledger names jobs) (member : j ∈ jobs) :
    m.at? j.place = none ∨ m.at? j.place = j.left :=
  (h.left j member).imp_right And.right

/-- Nothing is at the place of a run that is not over. -/
theorem vacant (h : m.Ledger names jobs) (member : j ∈ jobs)
    (early : j.compilation.isOver m.clock = false) : m.at? j.place = none :=
  (h.left j member).resolve_right fun left => Bool.false_ne_true (early.symm.trans left.1)

/-- Nothing is at the place of a run that would leave nothing if it were dropped. -/
theorem vacant_of_leftAt (h : m.Ledger names jobs) (member : j ∈ jobs)
    (nothing : j.compilation.leftAt m.clock = none) : m.at? j.place = none := by
  rcases h.left j member with vacant | ⟨ended, left⟩
  · exact vacant
  · rw [left, Job.left]
    unfold Compilation.leftAt at nothing
    split
    · rename_i run killed response
      simpa only [response, ended, if_true] using nothing
    · rfl

/-- Files come only to the places of runs under way; at that of a run that stays under way there is
then what was there before, or nothing, or what the run left and it is over. -/
theorem change (h : m.Ledger names jobs) (quiet : m.Quiet m') (fewer : jobs'.Subperm jobs)
    (files : ∀ p, (m'.at? p).isSome = true → (m.at? p).isSome = true ∨ ∃ j ∈ jobs, j.place = p)
    (own : ∀ j ∈ jobs', m'.at? j.place = m.at? j.place ∨ m'.at? j.place = none ∨
      j.compilation.isOver m'.clock = true ∧ m'.at? j.place = j.left) : m'.Ledger names jobs' where
  issued := by
    rw [quiet.attempts]
    exact h.issued
  distinct := by
    obtain ⟨l, perm, sub⟩ := fewer
    exact (perm.map Job.place).nodup ((sub.map Job.place).nodup h.distinct)
  named := by
    intro j member
    unfold Named
    rw [quiet.attempts]
    exact h.named j (fewer.subset member)
  filed := by
    intro p there
    unfold Named
    rw [quiet.attempts]
    rcases files p there with old | ⟨j, member, rfl⟩
    · exact h.filed p old
    · exact h.named j member
  left := by
    intro j member
    rcases own j member with same | nothing | left
    · rw [same]
      exact (h.left j (fewer.subset member)).imp_right
        (And.imp_left (Compilation.isOver_mono quiet.clock))
    · exact .inl nothing
    · exact .inr left

/-- Nothing changes in the scratch directories. -/
theorem same (h : m.Ledger names jobs) (quiet : m.Quiet m')
    (scratches : m'.scratches = m.scratches) : m'.Ledger names jobs :=
  h.change quiet (.refl _) (fun p there => .inl (at?_congr scratches p ▸ there))
    fun j _ => .inl (at?_congr scratches j.place)

theorem perm (h : m.Ledger names jobs) (order : jobs'.Perm jobs) : m.Ledger names jobs' :=
  h.change (.refl m) order.subperm (fun _ there => .inl there) fun _ _ => .inl rfl

/-- Files are removed, and nothing else changes in the scratch directories. -/
theorem remove (h : m.Ledger names jobs) (quiet : m.Quiet m')
    (removed : ∀ p, m'.at? p = m.at? p ∨ m'.at? p = none) : m'.Ledger names jobs := by
  refine h.change quiet (.refl _) (fun p there => .inl ?_) fun j _ =>
    (removed j.place).imp_right .inl
  rcases removed p with same | nothing
  · exact same ▸ there
  · simp [nothing] at there

/-- A run is no longer under way, whatever becomes of what is at its place. -/
theorem finish (h : m.Ledger names (j :: jobs)) (only : OnlyAt j.place m m') (quiet : m.Quiet m') :
    m'.Ledger names jobs := by
  have apart : j.place ∉ jobs.map Job.place := (List.nodup_cons.1 h.distinct).1
  refine h.change quiet (List.sublist_cons_self j jobs).subperm (fun p there => ?_)
    fun k member => .inl (only.elsewhere k.place fun same => apart ?_)
  · by_cases own : p = j.place
    · exact .inr ⟨j, List.mem_cons_self .., own.symm⟩
    · exact .inl (only.elsewhere p own ▸ there)
  · exact same ▸ List.mem_map_of_mem member

/-- What a run left is put in its place, and the run stays under way. -/
theorem land (h : m.Ledger names jobs) (member : j ∈ jobs) (only : OnlyAt j.place m m')
    (quiet : m.Quiet m') (left : m'.at? j.place = none ∨
      j.compilation.isOver m'.clock = true ∧ m'.at? j.place = j.left) :
    m'.Ledger names jobs := by
  refine h.change quiet (.refl _) (fun p there => ?_) fun k among => ?_
  · by_cases own : p = j.place
    · exact .inr ⟨j, member, own.symm⟩
    · exact .inl (only.elsewhere p own ▸ there)
  · by_cases own : k.place = j.place
    · obtain rfl : k = j := List.inj_on_of_nodup_map h.distinct among member own
      exact .inr left
    · exact .inl (only.elsewhere k.place own)

/-- The names that come next were given to no file. -/
theorem not_named_of_next (h : m.Ledger names jobs) (bound : m.attempts.length < UInt64.size) :
    ¬m.Named names (names.fileAt names.issued) := by
  rintro ⟨serial, early, given⟩
  have same := names.fileAt_injective given
  rw [h.issued, ← UInt64.toNat_inj, UInt64.toNat_ofNat_of_lt' bound,
    UInt64.toNat_ofNat_of_lt' (Nat.lt_trans early bound)] at same
  exact absurd early (by simp [same])

/-- A run begins, under names that were given to no other unit. -/
theorem begin (h : m.Ledger names jobs) {attempt : Attempt} (scratches : m'.scratches = m.scratches)
    (called : m'.attempts = attempt :: m.attempts) (clock : m.clock ≤ m'.clock)
    (bound : m'.attempts.length ≤ UInt64.size) (own : j.place.file = names.fileAt names.issued) :
    m'.Ledger names.next.2 (j :: jobs) := by
  rw [called, List.length_cons] at bound
  have fresh := h.not_named_of_next bound
  rw [← own] at fresh
  have later {file : String} (given : m.Named names file) : m'.Named names.next.2 file := by
    obtain ⟨serial, early, given⟩ := given
    refine ⟨serial, ?_, given⟩
    rw [called, List.length_cons]
    exact Nat.lt_succ_of_lt early
  have nothing : m'.at? j.place = none := by
    rw [at?_congr scratches, ← Option.not_isSome_iff_eq_none]
    exact fun there => fresh (h.filed j.place there)
  refine ⟨?_, ?_, fun k member => ?_, fun p there => later (h.filed p ?_), fun k member => ?_⟩
  · rw [called, List.length_cons, UInt64.ofNat_add, ← h.issued]
    rfl
  · rw [List.map_cons, List.nodup_cons]
    refine ⟨fun among => ?_, h.distinct⟩
    obtain ⟨k, member, same⟩ := List.mem_map.1 among
    exact fresh (same ▸ h.named k member)
  · rcases List.mem_cons.1 member with rfl | old
    · refine ⟨m.attempts.length, ?_, by rw [own, h.issued, NameSource.fileAt_next]⟩
      rw [called, List.length_cons]
      exact Nat.lt_succ_self _
    · exact later (h.named k old)
  · exact at?_congr scratches p ▸ there
  · rcases List.mem_cons.1 member with rfl | old
    · exact .inl nothing
    · rw [at?_congr scratches]
      exact (h.left k old).imp_right (And.imp_left (Compilation.isOver_mono clock))

end Ledger

end Machine

namespace Bench

variable {b : Bench} {m m' : Machine} {c : Compilation} {built : Except Failure BuiltUnit}

/-- Whatever comes of a call, nothing changes but what is at the place of its library. -/
theorem onlyAt_finish? {j : Job} (scratch : j.scratch = b.scratch)
    (finished : b.finish? m j.compilation = some (built, m')) : Machine.OnlyAt j.place m m' := by
  obtain ⟨number, c, lands⟩ := j
  obtain rfl : number = b.scratch := scratch
  have waited : Machine.OnlyAt (Job.place ⟨b.scratch, c, lands⟩) m (m.waitUntil (c.due?.getD 0)) :=
    .of_scratches rfl
  simp only [finish?] at finished
  split at finished
  · obtain ⟨-, rfl⟩ := Prod.mk.inj (Option.some.inj finished)
    exact waited
  · simp at finished
  · obtain ⟨-, rfl⟩ := Prod.mk.inj (Option.some.inj finished)
    exact waited.trans (Machine.onlyAt_leave ..)
  · obtain rfl := congrArg Prod.snd (Option.some.inj finished)
    exact waited.trans (onlyAt_finishRun ..)

theorem clock_land (b : Bench) (m : Machine) (c : Compilation) : (b.land m c).clock = m.clock := by
  rcases b.land_eq m c with same | dropped
  · rw [same]
  · rw [dropped, b.clock_drop]

/-- A run that lands leaves what it leaves. -/
theorem at?_land (b : Bench) (m : Machine) (c : Compilation) (lands : Bool)
    (own : m.at? (Job.place ⟨b.scratch, c, lands⟩) = none ∨ c.isOver m.clock = true ∧
      m.at? (Job.place ⟨b.scratch, c, lands⟩) = Job.left ⟨b.scratch, c, lands⟩) :
    (b.land m c).at? (Job.place ⟨b.scratch, c, lands⟩) = none ∨
      c.isOver (b.land m c).clock = true ∧
        (b.land m c).at? (Job.place ⟨b.scratch, c, lands⟩) = Job.left ⟨b.scratch, c, lands⟩ := by
  rw [b.clock_land]
  unfold land
  split
  · rename_i run killed response
    have left : Job.left ⟨b.scratch, c, lands⟩ = run.left := by simp only [Job.left, response]
    split
    · rename_i ended
      rw [left] at own ⊢
      have put := Machine.at?_leave (own.imp_right And.right)
      split at put
      · exact .inr ⟨ended, put⟩
      · exact .inl put
    · exact own
  · exact own

theorem onlyAt_land (b : Bench) (m : Machine) (c : Compilation) (lands : Bool) :
    Machine.OnlyAt (Job.place ⟨b.scratch, c, lands⟩) m (b.land m c) := by
  rcases b.land_eq m c with same | dropped
  · rw [same]
    exact .refl _ m
  · rw [dropped]
    exact b.onlyAt_drop m c

end Bench

namespace Workshop

/-- The ledger of a workshop. -/
def Ledger (w : Workshop) (jobs : List Job) : Prop := w.machine.Ledger w.names jobs

variable {w w' : Workshop} {r : Request} {host : Host} {jobs : List Job} {lands : Bool}

/-- Where hosts were set up and nothing was done yet, no run is under way. -/
theorem Furnished.ledger (furnished : w.Furnished) : w.Ledger [] := by
  have untouched := furnished.untouched
  refine ⟨?_, by simp, by simp, fun p there => ?_, by simp⟩
  · simp [untouched.issued, untouched.attempts]
  · simp [Machine.at?_of_empty untouched.empty p] at there

/-- What does not touch the scratch directories keeps the ledger. -/
theorem Ledger.same (h : w.Ledger jobs) (quiet : w.Quiet w')
    (scratches : w'.machine.scratches = w.machine.scratches) : w'.Ledger jobs := by
  unfold Ledger
  rw [quiet.names]
  exact Machine.Ledger.same h quiet.machine scratches

theorem scratches_fail (w : Workshop) (r : Request) (failure : Failure) :
    (w.fail r failure).2.machine.scratches = w.machine.scratches := by
  simp only [fail, noteFailure]
  split <;> rfl

theorem ledger_fail (h : w.Ledger jobs) (r : Request) (failure : Failure) :
    (w.fail r failure).2.Ledger jobs :=
  h.same (w.quiet_fail r failure) (w.scratches_fail r failure)

/-- To make something of a unit, or of the failure to build it, changes nothing but what is at the
place of its library. -/
theorem onlyAt_settle (w : Workshop) (host : Host) (j : Job) (own : j.scratch = host.bench.scratch)
    (built : Except Failure BuiltUnit) :
    Machine.OnlyAt j.place w.machine (w.settle host j.compilation.unit built).2.machine := by
  cases built with
  | error failure => exact .refl _ _
  | ok built =>
    unfold settle instantiate
    dsimp only
    split
    · exact .refl _ _
    · have discarded := w.machine.onlyAt_discard j.place
      unfold Job.place at discarded ⊢
      rw [own] at discarded ⊢
      exact discarded

/-- What comes of a call changes nothing but what is at the place of its library. -/
theorem Ends.onlyAt {c : Compilation} {result : Except Failure Verdict}
    (h : w.Ends host c result w') (lands : Bool) :
    Machine.OnlyAt (Job.place ⟨host.bench.scratch, c, lands⟩) w.machine w'.machine := by
  obtain ⟨built, machine, finished, settled⟩ := h
  let j : Job := ⟨host.bench.scratch, c, lands⟩
  have taken : Machine.OnlyAt j.place w.machine machine := Bench.onlyAt_finish? rfl finished
  have made := onlyAt_settle { w with machine } host j rfl built
  rw [settled] at made
  exact taken.trans made

/-- The run is then no longer under way. -/
theorem ledger_end {retried : UInt32} {c : Compilation} {result : Except Failure Verdict}
    (h : w.Ledger (Phase.jobs w.hosts r lands (.compiling retried c) ++ jobs))
    (found : w.hosts[r.host]? = some host) (ended : w.Ends host c result w') : w'.Ledger jobs := by
  rw [Phase.jobs_compiling found] at h
  unfold Ledger
  rw [ended.quiet.names]
  exact Machine.Ledger.finish h (ended.onlyAt lands) ended.quiet.machine

theorem ledger_attempt (h : w.Ledger jobs) (found : w.hosts[r.host]? = some host)
    {template : Template} (kept : host.templates.kept = some template) (retried : UInt32)
    (bound : (w.attempt r host retried).2.machine.attempts.length ≤ UInt64.size) (lands : Bool) :
    (w.attempt r host retried).2.Ledger
      ((w.attempt r host retried).1.jobs w.hosts r lands ++ jobs) := by
  simp only [attempt, prepare_eq found kept] at bound ⊢
  have own : (SourceUnit.fill template w.names.next.1 r.expression).names =
    w.names.namesAt w.names.issued := rfl
  generalize SourceUnit.fill template w.names.next.1 r.expression = unit at bound own ⊢
  let j : Job := ⟨host.bench.scratch, (host.bench.call w.machine unit).1, lands⟩
  let called : Workshop :=
    { w with names := w.names.next.2, machine := (host.bench.call w.machine unit).2 }
  have file : j.place.file = w.names.fileAt w.names.issued := congrArg Settings.libraryFile own
  have begun (bound : called.machine.attempts.length ≤ UInt64.size) : called.Ledger (j :: jobs) :=
    Machine.Ledger.begin h rfl rfl (Nat.le_succ _) bound file
  cases response : (host.bench.call w.machine unit).1.response with
  | started course killed =>
    simp only [response] at bound ⊢
    simp only [Phase.jobs, found, List.singleton_append]
    exact begun bound
  | unstarted fault =>
    simp only [response] at bound ⊢
    let failure : Failure := .toolchain (.unstartable host.bench.toolchain.path fault)
    have began := begun ((called.quiet_fail r failure).machine.attempts ▸ bound)
    have without : called.Ledger jobs := Machine.Ledger.finish began (.refl _ _) (.refl _)
    exact ledger_fail without r failure

/-- **A step of a request keeps the ledger.** -/
theorem ledger_advance (ready : w.Ready) {phase : Phase}
    (h : w.Ledger (phase.jobs w.hosts r lands ++ jobs))
    (bound : (w.advance r phase).2.machine.attempts.length ≤ UInt64.size) :
    (w.advance r phase).2.Ledger ((w.advance r phase).1.jobs w.hosts r lands ++ jobs) := by
  have step := w.advances r phase
  generalize w.advance r phase = next at step bound ⊢
  cases step with
  | stuck halted => exact h
  | first found =>
    obtain ⟨template, kept⟩ := ready _ (List.mem_of_getElem? found)
    exact ledger_attempt h found kept 0 bound lands
  | made found ended => exact ledger_end h found ended
  | @again _ retried _ failure w' found ended =>
    obtain ⟨template, kept⟩ := ready _ (List.mem_of_getElem? found)
    have noted : (w'.note (.retrying failure)).Ledger jobs :=
      (ledger_end h found ended).same (w'.quiet_note (.retrying failure)) rfl
    have quiet := ended.quiet_note (.retrying failure)
    have begun :=
      ledger_attempt noted (quiet.hosts.symm ▸ found) kept (retried + 1) bound lands
    rw [quiet.hosts] at begun
    exact begun
  | failed found ended => exact ledger_fail (ledger_end h found ended) r _

/-- A request is given up. -/
theorem ledger_abandon {phase : Phase} (h : w.Ledger (phase.jobs w.hosts r lands ++ jobs)) :
    (w.abandon r phase).Ledger jobs := by
  rcases w.jobs_cases r phase lands with ⟨jobless, same, -⟩ | ⟨host, c, job, dropped, -⟩
  · rw [jobless] at h
    rw [same]
    exact h
  · rw [job] at h
    rw [dropped]
    exact Machine.Ledger.finish h (host.bench.onlyAt_drop w.machine c)
      (host.bench.quiet_drop w.machine c)

/-- What a run that is over has left is put in its place. -/
theorem ledger_land (h : w.Ledger jobs) {phase : Phase}
    (among : phase.jobs w.hosts r true ⊆ jobs) : (w.land r phase).Ledger jobs := by
  rcases w.jobs_cases r phase true with ⟨-, -, same⟩ | ⟨host, c, job, -, landed⟩
  · rw [same]
    exact h
  · have member : ⟨host.bench.scratch, c, true⟩ ∈ jobs := among (job ▸ List.mem_singleton_self _)
    rw [landed]
    exact Machine.Ledger.land h member (host.bench.onlyAt_land w.machine c true)
      (host.bench.quiet_land w.machine c) (host.bench.at?_land w.machine c true (h.left _ member))

/-- Instances are let go of. -/
theorem ledger_release (h : w.Ledger jobs) (inUse : Nat → Bool) : (w.release inUse).Ledger jobs := by
  have discarded {gone : List Resident} {m : Machine} (h : m.Ledger w.names jobs) :
      (gone.foldl (fun m r => m.discard r.scratch r.file) m).Ledger w.names jobs := by
    induction gone generalizing m with
    | nil => exact h
    | cons r gone ih =>
      exact ih (h.remove (m.quiet_discard r.scratch r.file) (m.at?_discard_cases r.place))
  exact discarded h

/-! ### Scratch directories stay -/

/-- From one workshop to another, no scratch directory was made or removed. -/
def SameRooms (w w' : Workshop) : Prop :=
  ∀ number, w'.machine.hasScratch number = w.machine.hasScratch number

theorem SameRooms.refl (w : Workshop) : w.SameRooms w := fun _ => rfl

theorem SameRooms.trans {w₁ w₂ w₃ : Workshop} (h₁ : w₁.SameRooms w₂) (h₂ : w₂.SameRooms w₃) :
    w₁.SameRooms w₃ :=
  fun number => (h₂ number).trans (h₁ number)

theorem SameRooms.of_scratches (same : w'.machine.scratches = w.machine.scratches) :
    w.SameRooms w' :=
  Machine.hasScratch_congr same

/-- To begin an attempt changes no files. -/
theorem scratches_attempt (found : w.hosts[r.host]? = some host) {template : Template}
    (kept : host.templates.kept = some template) (retried : UInt32) :
    (w.attempt r host retried).2.machine.scratches = w.machine.scratches := by
  simp only [attempt, prepare_eq found kept]
  split
  · exact scratches_fail ..
  · rfl

theorem sameRooms_attempt (found : w.hosts[r.host]? = some host) {template : Template}
    (kept : host.templates.kept = some template) (retried : UInt32) :
    w.SameRooms (w.attempt r host retried).2 :=
  .of_scratches (scratches_attempt found kept retried)

theorem sameRooms_advance (ready : w.Ready) (r : Request) (phase : Phase) :
    w.SameRooms (w.advance r phase).2 := by
  have step := w.advances r phase
  generalize w.advance r phase = next at step ⊢
  cases step with
  | stuck halted => exact .refl w
  | first found =>
    obtain ⟨template, kept⟩ := ready _ (List.mem_of_getElem? found)
    exact sameRooms_attempt found kept 0
  | made found ended => exact (ended.onlyAt false).scratches
  | @again _ retried _ failure w' found ended =>
    obtain ⟨template, kept⟩ := ready _ (List.mem_of_getElem? found)
    have noted : w.SameRooms (w'.note (.retrying failure)) := (ended.onlyAt false).scratches
    have quiet := ended.quiet_note (.retrying failure)
    exact noted.trans (sameRooms_attempt (quiet.hosts.symm ▸ found) kept (retried + 1))
  | @failed _ _ _ failure w' found ended =>
    have rooms : w.SameRooms w' := (ended.onlyAt false).scratches
    exact rooms.trans (.of_scratches (w'.scratches_fail r failure))

theorem sameRooms_abandon (w : Workshop) (r : Request) (phase : Phase) :
    w.SameRooms (w.abandon r phase) := by
  rcases w.jobs_cases r phase true with ⟨-, same, -⟩ | ⟨host, c, -, dropped, -⟩
  · rw [same]
    exact .refl w
  · rw [dropped]
    exact (host.bench.onlyAt_drop w.machine c).scratches

theorem sameRooms_land (w : Workshop) (r : Request) (phase : Phase) :
    w.SameRooms (w.land r phase) := by
  rcases w.jobs_cases r phase true with ⟨-, -, same⟩ | ⟨host, c, -, -, landed⟩
  · rw [same]
    exact .refl w
  · rw [landed]
    exact (host.bench.onlyAt_land w.machine c true).scratches

theorem sameRooms_release (w : Workshop) (inUse : Nat → Bool) : w.SameRooms (w.release inUse) := by
  have discarded (gone : List Resident) (m : Machine) (number : Nat) :
      (gone.foldl (fun m r => m.discard r.scratch r.file) m).hasScratch number =
        m.hasScratch number := by
    induction gone generalizing m with
    | nil => rfl
    | cons r gone ih => exact (ih _).trans ((m.onlyAt_discard r.place).scratches number)
  exact discarded _ w.machine

theorem scratches_call (w : Workshop) (handle : Handle) (x : Float) :
    (w.call handle x).2.machine.scratches = w.machine.scratches := by
  unfold call
  split
  · rfl
  · split <;> rfl

/-! ### Paths -/

/-- A path for the library of a unit is one that can be loaded. -/
def NoZero (w : Workshop) (r : Request) (phase : Phase) : Prop :=
  ∀ retried c host, phase = .compiling retried c → w.hosts[r.host]? = some host →
    '\x00' ∉ (host.bench.libraryPath w.machine c.unit.names).toList

/-- The compiler is not started if a zero character is in the path for the library. -/
theorem noZero_attempt (found : w.hosts[r.host]? = some host) (retried : UInt32) {template : Template}
    (kept : host.templates.kept = some template) : w.NoZero r (w.attempt r host retried).1 := by
  intro counter c host' compiling found'
  obtain rfl := Option.some.inj (found.symm.trans found')
  rw [attempt_eq found kept] at compiling
  simp only [commence] at compiling
  split at compiling
  · simp [fail] at compiling
  · rename_i course killed started
    obtain ⟨-, rfl⟩ := Phase.compiling.inj compiling
    simp only [Bench.call_eq, Machine.respond] at started
    split at started
    · simp at started
    · rename_i clean
      rw [Bool.not_eq_true, List.any_eq_false] at clean
      simpa using clean _ (by simp [Bench.callFor, Settings.arguments, Bench.call_eq])

theorem noZero_advance (ready : w.Ready) {phase : Phase} (before : w.NoZero r phase) :
    w.NoZero r (w.advance r phase).1 := by
  have step := w.advances r phase
  generalize w.advance r phase = next at step ⊢
  cases step with
  | stuck halted => exact before
  | first found =>
    obtain ⟨template, kept⟩ := ready _ (List.mem_of_getElem? found)
    exact noZero_attempt found 0 kept
  | made found ended =>
    intro counter c host compiling
    simp at compiling
  | @again _ retried _ failure w' found ended =>
    obtain ⟨template, kept⟩ := ready _ (List.mem_of_getElem? found)
    have quiet := ended.quiet_note (.retrying failure)
    have clean := noZero_attempt (quiet.hosts.symm ▸ found) (retried + 1) kept (r := r)
    intro counter c host compiling found'
    have there := clean counter c host compiling (quiet.hosts.symm ▸ found')
    simpa only [Bench.libraryPath, Machine.scratchPath, quiet.machine.temporary] using there
  | failed found ended =>
    intro counter c host compiling
    simp [fail] at compiling

end Workshop

end Plotter
