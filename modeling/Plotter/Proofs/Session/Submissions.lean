import Plotter.Proofs.Session.Halts

/-!
# From the submission of a request on

The runtime lets a request go on that was submitted (`Moment.Submission`). As long as it has not
ended no instance is made, and nobody but the request asks anything of the compiler.

If everything had landed by then that runs have left (`Moment.CleanSubmission`), and tasks that are
told to stop do so in time, the request is alone with the files: nobody changes any but the request
itself, and a run of its own leaves its library only when it is over. The libraries of its earlier
attempts, which could not be loaded, are removed by then.

The induction is on the events since the submission, the latest first; what it carries is that the
request is in flight and that whoever was told to stop has left what it leaves.

## What is proved

* `History.spent_of_unfinished`: what a request has spent that has not ended.
* `Moment.Submission.unmade`: no instance was made since the request was submitted.
* `Moment.CleanSubmission.spares`: nobody else changes the files.
* `Moment.CleanSubmission.files`: the files are those that were there when it was submitted.
-/

namespace Plotter

/-- How many attempts a request has begun that has not ended. -/
def Phase.begun : Phase → Nat
  | .compiling retried _ => retried.toNat + 1
  | _ => 0

namespace History

variable {r : Request} {host : Host} {turns : List (Workshop × Workshop)} {trials : List Trial}
  {phase : Phase}

/-- As long as a request has not ended, none of its trials could load its library. -/
theorem failsToLoad_of_unfinished (h : History r host turns trials phase)
    (unfinished : phase.isDone = false) : ∀ t ∈ trials, t.failsToLoad = true := by
  cases h with
  | queued => simp
  | compiling begun _ => exact begun.failsToLoad
  | unstarted => cases unfinished
  | ended => cases unfinished

/-- **What a request has spent that has not ended**: a pair of names and a call of the compiler for
each attempt that it has begun, and in each the compiler was started. -/
theorem spent_of_unfinished {w w' : Workshop} (h : History r host turns trials phase)
    (unfinished : phase.isDone = false) (linked : Linked w turns w') :
    ∃ starts : List Start, starts.length = phase.begun ∧ Spent host w w' starts ∧
      ∀ s ∈ starts, s.Sound r host ∧ s.compilation.response.isStarted = true := by
  cases h with
  | queued => exact ⟨[], rfl, (Spent.refl host w).quiet linked, by simp⟩
  | @compiling _ _ s begun started =>
    refine ⟨trials.map Trial.toStart ++ [s], ?_, (begun.spent_of_linked linked).2, ?_⟩
    · rw [List.length_append, List.length_map, List.length_singleton, ← begun.retried_eq.1]
      rfl
    · intro u member
      rcases List.mem_append.1 member with earlier | last
      · obtain ⟨t, among, rfl⟩ := List.mem_map.1 earlier
        have sound := begun.sound_trials t among
        exact ⟨sound.toSound, (sound.succeeds (begun.failsToLoad t among)).isStarted⟩
      · obtain rfl := List.mem_singleton.1 last
        exact ⟨begun.sound, started⟩
  | unstarted => cases unfinished
  | ended => cases unfinished

end History

namespace Moment

/-- After the events `start` a request is in flight that was submitted in the last of them. -/
structure Submission (w : Workshop) (host : Host) (start : List Event) (n : Nat) (r : Request) :
    Prop where
  furnished : w.Furnished
  found : w.hosts[r.host]? = some host
  queued : ((first w).after start).InFlight n r .queued

namespace Submission

variable {w : Workshop} {host : Host} {start run : List Event} {n : Nat} {r : Request}
  {phase : Phase}

theorem ordered_after (h : Submission w host start n r) (later : List Event) :
    (((first w).after start).after later).session.Numbered ∧
      (((first w).after start).after later).session.InPlace :=
  Moment.ordered_after h.queued.ordered later

theorem lt_submitted (h : Submission w host start n r) (later : List Event) :
    n < (((first w).after start).after later).session.submitted := by
  obtain ⟨t, there, -⟩ := standing?_task.1 h.queued.standing
  exact Nat.lt_of_lt_of_le (h.queued.ordered.1.lt_of_task? there) (submitted_le ..)

theorem steady_after (h : Submission w host start n r) (later : List Event) :
    w.Steady (((first w).after start).after later).session.workshop := by
  rw [← after_append]
  exact Moment.steady_after h.furnished (start ++ later)

theorem found_after (h : Submission w host start n r) (later : List Event) :
    (((first w).after start).after later).session.workshop.hosts[r.host]? = some host :=
  (h.steady_after later).hosts.symm ▸ h.found

theorem ready_after (h : Submission w host start n r) (later : List Event) :
    (((first w).after start).after later).session.workshop.Ready :=
  (h.steady_after later).ready h.furnished.ready

theorem ledger_after (h : Submission w host start n r) (later : List Event)
    (bound : (((first w).after start).after later).session.workshop.machine.attempts.length ≤
      UInt64.size) : (((first w).after start).after later).Ledger := by
  rw [← after_append] at bound ⊢
  exact Moment.ledger_after h.furnished (start ++ later) bound

theorem attempts_le (h : Submission w host start n r) (run later : List Event)
    (bound : (((first w).after start).after (run ++ later)).session.workshop.machine.attempts.length
      ≤ UInt64.size) :
    (((first w).after start).after run).session.workshop.machine.attempts.length ≤
      UInt64.size := by
  rw [← after_append, ← List.append_assoc] at bound
  rw [← after_append]
  exact Nat.le_trans (attempts_le_after h.furnished (start ++ run) later) (by rwa [← after_append])

/-- The request is in flight as long as it is not told to stop. -/
theorem inFlight_after (h : Submission w host start n r) (runtime : ∀ e ∈ run, e.isRuntime = true)
    (standing : (((first w).after start).after run).standing? (.task n) = some (r, phase)) :
    (((first w).after start).after run).InFlight n r phase := by
  refine ⟨h.ordered_after run, ?_, standing⟩
  clear standing
  induction run using List.reverseRecOn with
  | nil => exact h.queued.place
  | append_singleton run e ih =>
    rw [after_append, after_cons, after_nil, inFlight_react_of_isRuntime _ (runtime e (by simp))]
    exact ih fun e member => runtime e (List.mem_append_left _ member)

/-- The request was in flight before each event of the runtime, which is a turn of it or something
that the runtime does aside from it. -/
theorem goes_before (h : Submission w host start n r) {e : Event} (runtime : e.isRuntime = true)
    {phase' : Phase} (now : (((first w).after start).after (run ++ [e])).InFlight n r phase') :
    ∃ phase, (((first w).after start).after run).InFlight n r phase ∧
      (((first w).after start).after run).Goes e (.task n) r phase phase' := by
  rw [after_append, after_cons, after_nil] at now
  exact now.before runtime (h.ordered_after run) (h.lt_submitted run)

/-- A run for which the request waits was not over when the request was submitted. -/
theorem late (h : Submission w host start n r) (runtime : ∀ e ∈ run, e.isRuntime = true)
    {retried : UInt32} {c : Compilation}
    (now : (((first w).after start).after run).InFlight n r (.compiling retried c)) :
    c.isOver ((first w).after start).session.workshop.machine.clock = false := by
  induction run using List.reverseRecOn generalizing retried c with
  | nil =>
    have queued := h.queued.standing
    obtain ⟨-, same⟩ := Prod.mk.inj (Option.some.inj (queued.symm.trans now.standing))
    cases same
  | append_singleton run e ih =>
    have runtime' := fun e member => runtime e (List.mem_append_left _ member)
    obtain ⟨phase, before, goes⟩ := h.goes_before (runtime e (by simp)) now
    cases goes with
    | turn moves turn stepped =>
      have clock := (steady_later (h.ready_after []) run).machine.clock
      exact Workshop.late_advance (h.ready_after run) (h.found_after run) moves (by rw [stepped])
        clock
    | stay aside => exact ih runtime' before

/-- The scratch directories stay. -/
theorem sameRooms (h : Submission w host start n r) {later : List Event}
    (background : ∀ e ∈ later, e.isBackground = true) :
    ((first w).after start).session.workshop.SameRooms
      (((first w).after start).after later).session.workshop := by
  refine sameRooms_after h.furnished start fun e member => ?_
  rintro rfl
  cases background _ member

/-- A task that was told to stop was so when the request was submitted. -/
theorem stopping_at_first (h : Submission w host start n r)
    (runtime : ∀ e ∈ run, e.isRuntime = true) {t : Task}
    (member : t ∈ (((first w).after start).after run).session.tasks) {phase : Phase}
    (stopping : t.state = .stopping phase) :
    ∃ u ∈ ((first w).after start).session.tasks, t.request = u.request ∧
      u.state = .stopping phase := by
  induction run using List.reverseRecOn generalizing t with
  | nil => exact ⟨t, member, rfl, stopping⟩
  | append_singleton run e ih =>
    rw [after_append, after_cons, after_nil] at member
    have aside := runtime e (by simp)
    rcases stopping_before (h.ordered_after run).1 e member stopping with
      ⟨u, there, request, told | ⟨order, -⟩⟩
    · obtain ⟨v, first', request', told'⟩ :=
        ih (fun e member => runtime e (List.mem_append_left _ member)) there told
      exact ⟨v, first', request.trans request', told'⟩
    · rw [Event.isRuntime_of_isOrder order] at aside
      cases aside

/-- Between the turns of the request nothing is asked of the compiler. -/
theorem linked (h : Submission w host start n r) (runtime : ∀ e ∈ run, e.isRuntime = true)
    (now : (((first w).after start).after run).InFlight n r phase) :
    Linked ((first w).after start).session.workshop
      (turns (.task n) ((first w).after start) run)
      (((first w).after start).after run).session.workshop := by
  induction run using List.reverseRecOn generalizing phase with
  | nil => exact Workshop.Quiet.refl _
  | append_singleton run e ih =>
    obtain ⟨phase', before, goes⟩ := h.goes_before (runtime e (by simp)) now
    have linked := ih (fun e member => runtime e (List.mem_append_left _ member)) before
    rw [turns_append, turns_one, after_append, after_cons, after_nil]
    cases goes with
    | turn moves turn stepped =>
      rw [if_pos turn]
      exact linked_concat.2 ⟨linked, .refl _⟩
    | stay aside =>
      rw [aside, if_neg Bool.false_ne_true, List.append_nil]
      exact linked.quiet (before.quiet_aside (runtime e (by simp)) aside)

/-- No instance is made before the request ends. -/
theorem unmade (h : Submission w host start n r) (runtime : ∀ e ∈ run, e.isRuntime = true)
    (now : (((first w).after start).after run).InFlight n r phase)
    (unfinished : phase.isDone = false) :
    (((first w).after start).after run).session.workshop.residents =
        ((first w).after start).session.workshop.residents ∧
      (((first w).after start).after run).session.workshop.made =
        ((first w).after start).session.workshop.made := by
  induction run using List.reverseRecOn generalizing phase with
  | nil => exact ⟨rfl, rfl⟩
  | append_singleton run e ih =>
    obtain ⟨phase', before, goes⟩ := h.goes_before (runtime e (by simp)) now
    obtain ⟨residents, made⟩ := ih (fun e member => runtime e (List.mem_append_left _ member))
      before (goes.isDone_before unfinished)
    rw [after_append, after_cons, after_nil, ← residents, ← made]
    cases goes with
    | stay aside => exact before.residents_aside (runtime e (by simp)) aside
    | turn moves turn stepped =>
      have begun := congrArg Prod.fst stepped
      have workshop := congrArg Prod.snd stepped
      dsimp only at begun workshop
      rw [← workshop]
      rcases Workshop.advance_makes (((first w).after start).after run).session.workshop r phase'
        with same | ⟨born, makes, handle⟩
      · rw [same]
        exact ⟨rfl, rfl⟩
      · have null : phase.handle = .null := by
          cases phase with
          | done verdict => cases unfinished
          | _ => rfl
        rw [begun, null] at handle
        cases makes with
        | nothing residents made => exact ⟨residents, made⟩
        | one => cases handle

end Submission

/-! ### The files since a submission -/

/-- The user held the host when the request was submitted, and everything was there by then that the
tasks have left that were told to stop; and the compiler leaves nothing that cannot be removed. -/
structure CleanSubmission (w : Workshop) (host : Host) (start : List Event) (n : Nat) (r : Request) :
    Prop extends Submission w host start n r where
  removable : w.machine.tool.Removable
  held : ((first w).after start).session.holds r.host = true
  settled : ((first w).after start).session.Settled

namespace CleanSubmission

variable {w : Workshop} {host : Host} {start run : List Event} {n : Nat} {r : Request}
  {phase : Phase}

theorem removable_after (h : CleanSubmission w host start n r) (later : List Event) :
    (((first w).after start).after later).session.Removable := by
  intro t member phase stands
  rw [← after_append] at member
  exact Moment.removable_after h.furnished h.removable (start ++ later) member stands

/-- What the runtime does aside from the request leaves what was there of others' runs, so that
others have left what they leave. -/
theorem settled_of_spares (h : CleanSubmission w host start n r)
    (runtime : ∀ e ∈ run, e.isRuntime = true) (timely : ((first w).after start).Timely run)
    (now : (((first w).after start).after run).InFlight n r phase)
    (unfinished : phase.isDone = false)
    (bound : (((first w).after start).after run).session.workshop.machine.attempts.length ≤
      UInt64.size)
    (spares : ∀ p, ((first w).after start).Spares host (.task n) run p) :
    (((first w).after start).after run).session.Settled := by
  intro t member phase' stopping p host' retried c found' compiling own
  subst compiling own
  rcases timely run [] (by simp) t member retried c stopping with since | nothing
  case inr =>
    have job := job_of_task member (by rw [stopping]; rfl) found'
    exact Bench.landed_of_vacant nothing
      (Machine.Ledger.vacant_of_leftAt (h.ledger_after run bound) job nothing)
  obtain ⟨u, first', request, stopping'⟩ := h.stopping_at_first runtime member stopping
  have hosts := (Moment.steady_after h.furnished start).hosts
  rw [(h.steady_after run).hosts, ← hosts, request] at found'
  have landed := h.settled u first' _ stopping' _ host' retried c found' rfl rfl
  obtain ⟨trials, -, -, files⟩ := filesLeft_after h.furnished start run h.found h.queued.standing
    (by simp) h.held bound now.standing (by rintro _ _ _ _ rfl; cases unfinished)
  -- The run has a name that was given before the request was submitted.
  have named : ((first w).after start).session.workshop.machine.Named w.names
      (host'.bench.placeOf c.unit).file := by
    have ledger := Moment.ledger_after h.furnished start
      (Nat.le_trans (attempts_le_after h.furnished start run) bound)
    have named := named_of_task ledger first' (by rw [stopping']; rfl) found'
    exact (Machine.named_congr (fileAt_after w start)).1 named
  have same : (((first w).after start).after run).session.workshop.machine.at?
        (host'.bench.placeOf c.unit) =
      ((first w).after start).session.workshop.machine.at? (host'.bench.placeOf c.unit) := by
    refine files.same _ (spares _) ?_ ?_
    · intro v among ran own
      exact (files.named v among ran).2 (own ▸ named)
    · intro counter c' compiling own
      exact (files.fresh counter c' compiling).1 (own ▸ named)
  refine landed.later (fun _ => since) (h.sameRooms (fun e member => ?_) _) same
  simp [Event.isBackground, runtime e member]

/-- **Nobody else changes the files** while the runtime lets a request go on. -/
theorem spares (h : CleanSubmission w host start n r) (runtime : ∀ e ∈ run, e.isRuntime = true)
    (timely : ((first w).after start).Timely run)
    (now : (((first w).after start).after run).InFlight n r phase)
    (unfinished : phase.isDone = false)
    (bound : (((first w).after start).after run).session.workshop.machine.attempts.length ≤
      UInt64.size) :
    ∀ p, ((first w).after start).Spares host (.task n) run p := by
  induction run using List.reverseRecOn generalizing phase with
  | nil =>
    intro p before e after same
    simp at same
  | append_singleton run e ih =>
    have runtime' := fun e member => runtime e (List.mem_append_left _ member)
    obtain ⟨phase', before, goes⟩ := h.goes_before (runtime e (by simp)) now
    have unfinished' := goes.isDone_before unfinished
    have bound' := h.attempts_le run [e] bound
    have spared := ih runtime' timely.before before unfinished' bound'
    intro p earlier e' later same aside
    rcases List.eq_nil_or_concat later with rfl | ⟨later', last, rfl⟩
    · obtain ⟨rfl, single⟩ := List.append_inj' same rfl
      obtain rfl := List.singleton_inj.1 single
      have settled := h.settled_of_spares runtime' timely.before before unfinished' bound' spared
      refine (before.at?_aside settled (h.removable_after _) (h.found_after _)
        (runtime _ (by simp)) aside p).imp_right ?_
      rintro ⟨retried, c, rfl, own⟩
      exact ⟨r, retried, c, before.standing, own⟩
    · rw [List.concat_eq_append, ← List.cons_append, ← List.append_assoc] at same
      obtain ⟨rfl, -⟩ := List.append_inj' same rfl
      exact spared p earlier e' later' rfl aside

theorem settled_after (h : CleanSubmission w host start n r) (runtime : ∀ e ∈ run, e.isRuntime = true)
    (timely : ((first w).after start).Timely run)
    (now : (((first w).after start).after run).InFlight n r phase)
    (unfinished : phase.isDone = false)
    (bound : (((first w).after start).after run).session.workshop.machine.attempts.length ≤
      UInt64.size) : (((first w).after start).after run).session.Settled :=
  h.settled_of_spares runtime timely now unfinished bound
    (h.spares runtime timely now unfinished bound)

/-- Nothing is at the place of the run for which the request waits, if this would leave nothing. -/
theorem vacant (h : CleanSubmission w host start n r) {retried : UInt32} {c : Compilation}
    (now : (((first w).after start).after run).InFlight n r (.compiling retried c))
    (nothing : c.leftAt (((first w).after start).after run).session.workshop.machine.clock = none)
    (bound : (((first w).after start).after run).session.workshop.machine.attempts.length ≤
      UInt64.size) :
    (((first w).after start).after run).session.workshop.machine.at?
      (host.bench.placeOf c.unit) = none := by
  obtain ⟨t, there, rfl, live⟩ := standing?_task.1 now.standing
  have job := job_of_task (Session.mem_of_task? there) (by rw [live]; rfl) (h.found_after run)
  exact Machine.Ledger.vacant_of_leftAt (h.ledger_after run bound) job nothing

/-- What the trials left that a request went through is removed, if the request has not ended. -/
theorem residue_of_trial (h : CleanSubmission w host start n r) {turns : List (Workshop × Workshop)}
    {trials : List Trial} (history : History r host turns trials phase)
    (unfinished : phase.isDone = false)
    (taken : ∀ t ∈ trials, ((first w).after start).TakenUp (.task n) run r t) {t : Trial}
    (member : t ∈ trials) (ran : t.Ran) : t.compilation.residue = none := by
  obtain ⟨before, after, -, -, standing⟩ := taken t member ran
  obtain ⟨task, there, -, live⟩ := standing?_task.1 standing
  have removable := h.removable_after before task (Session.mem_of_task? there) _
    (by rw [live]; rfl) t.retried t.compilation rfl
  have success := (history.sound_trials t member).succeeds
    (history.failsToLoad_of_unfinished unfinished t member)
  exact Compilation.residue_of_succeeds removable success

/-- **A request has left nothing before it ends**, unless it waits for a run that is over and has
left something: the files are those that were there when it was submitted. -/
theorem files (h : CleanSubmission w host start n r) (runtime : ∀ e ∈ run, e.isRuntime = true)
    (timely : ((first w).after start).Timely run)
    (now : (((first w).after start).after run).InFlight n r phase)
    (unfinished : phase.isDone = false)
    (early : ∀ retried c, phase = .compiling retried c →
      c.leftAt (((first w).after start).after run).session.workshop.machine.clock = none)
    (bound : (((first w).after start).after run).session.workshop.machine.attempts.length ≤
      UInt64.size) (p : Place) :
    (((first w).after start).after run).session.workshop.machine.at? p =
      ((first w).after start).session.workshop.machine.at? p := by
  have spares := h.spares runtime timely now unfinished bound p
  obtain ⟨trials, history, taken, files⟩ := filesLeft_after h.furnished start run h.found
    h.queued.standing (by simp) h.held bound now.standing
    (by rintro _ _ _ _ rfl; cases unfinished)
  have begun := Nat.le_trans (attempts_le_after h.furnished start run) bound
  by_cases own : ∃ t ∈ trials, t.Ran ∧ t.place host = p
  · obtain ⟨t, member, ran, rfl⟩ := own
    rw [files.left _ spares t member ran rfl,
      vacant_of_unnamed h.furnished start begun (files.named t member ran).2]
    exact h.residue_of_trial history unfinished taken member ran
  · by_cases waits : ∃ retried c, phase = .compiling retried c ∧ host.bench.placeOf c.unit = p
    · obtain ⟨retried, c, rfl, rfl⟩ := waits
      rw [vacant_of_unnamed h.furnished start begun (files.fresh retried c rfl).1]
      exact h.vacant now (early retried c rfl) bound
    · exact files.same p spares (fun t member ran same => own ⟨t, member, ran, same⟩)
        fun retried c compiling same => waits ⟨retried, c, compiling, same⟩

end CleanSubmission

end Moment

end Plotter
