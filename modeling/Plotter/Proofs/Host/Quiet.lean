import Plotter.Host.Request

/-!
# What stays

Whatever is done in a workshop, the hosts and the compiler stay, no scratch directory is made or gets
another path, the clock does not go back, and the record of the attempts to call the compiler only
grows: this is `Workshop.Steady`. Most of what is done asks nothing of the compiler either: units are
loaded and let go of, files are left and removed, time passes. All of this is `Workshop.Quiet`: the
names and the record stay as they are. An attempt alone is not quiet.

A step of a request is thus quiet, but for the attempt with which it may end. `Workshop.Advances` says
what a step comes to; what is preserved by a step is shown by cases of it.
-/

namespace Plotter

namespace Machine

/-- From one machine to another, the compiler and the paths of scratch directories stayed, no scratch
directory was made, the clock did not go back, and no attempt to call the compiler was forgotten. -/
structure Steady (m m' : Machine) : Prop where
  tool : m'.tool = m.tool
  temporary : m'.temporary = m.temporary
  opened : m'.opened = m.opened
  clock : m.clock ≤ m'.clock
  recorded : m.attempts <:+ m'.attempts

theorem Steady.refl (m : Machine) : m.Steady m :=
  ⟨rfl, rfl, rfl, Nat.le_refl _, List.suffix_refl _⟩

theorem Steady.trans {m₁ m₂ m₃ : Machine} (h₁ : m₁.Steady m₂) (h₂ : m₂.Steady m₃) :
    m₁.Steady m₃ where
  tool := h₂.tool.trans h₁.tool
  temporary := h₂.temporary.trans h₁.temporary
  opened := h₂.opened.trans h₁.opened
  clock := Nat.le_trans h₁.clock h₂.clock
  recorded := h₁.recorded.trans h₂.recorded

/-- From one machine to another, nothing was asked of the compiler either. -/
structure Quiet (m m' : Machine) : Prop extends Steady m m' where
  attempts : m'.attempts = m.attempts

/-- What keeps the compiler, the clock and what is on record is quiet. -/
theorem Quiet.of_kept {m m' : Machine} (tool : m'.tool = m.tool)
    (temporary : m'.temporary = m.temporary) (opened : m'.opened = m.opened)
    (clock : m'.clock = m.clock) (attempts : m'.attempts = m.attempts) : m.Quiet m' where
  tool := tool
  temporary := temporary
  opened := opened
  clock := Nat.le_of_eq clock.symm
  recorded := attempts ▸ List.suffix_refl _
  attempts := attempts

theorem Quiet.refl (m : Machine) : m.Quiet m := .of_kept rfl rfl rfl rfl rfl

theorem Quiet.trans {m₁ m₂ m₃ : Machine} (h₁ : m₁.Quiet m₂) (h₂ : m₂.Quiet m₃) : m₁.Quiet m₃ :=
  ⟨h₁.toSteady.trans h₂.toSteady, h₂.attempts.trans h₁.attempts⟩

theorem quiet_note (m : Machine) (notice : Notice) : m.Quiet (m.note notice) :=
  .of_kept rfl rfl rfl rfl rfl

theorem quiet_edit (m : Machine) (files : Files) : m.Quiet { m with files } :=
  .of_kept rfl rfl rfl rfl rfl

theorem quiet_waitUntil (m : Machine) (time : Nat) : m.Quiet (m.waitUntil time) :=
  ⟨⟨rfl, rfl, rfl, Nat.le_max_left .., List.suffix_refl _⟩, rfl⟩

theorem quiet_closeScratch (m : Machine) (number : Nat) : m.Quiet (m.closeScratch number) :=
  .of_kept rfl rfl rfl rfl rfl

theorem quiet_leave (m : Machine) (number : Nat) (file : String) (left : Option Product) :
    m.Quiet (m.leave number file left) := by
  cases left with
  | none => exact .refl m
  | some p => exact .of_kept rfl rfl rfl rfl rfl

theorem quiet_discard (m : Machine) (number : Nat) (file : String) :
    m.Quiet (m.discard number file) := by
  unfold discard
  split
  · exact .refl m
  · exact m.quiet_note _
  · exact .of_kept rfl rfl rfl rfl rfl

end Machine

namespace Bench

variable (b : Bench) (m : Machine)

theorem quiet_drop (c : Compilation) : m.Quiet (b.drop m c) := m.quiet_leave ..

theorem quiet_land (c : Compilation) : m.Quiet (b.land m c) := by
  unfold land
  split
  · split
    · exact m.quiet_leave ..
    · exact .refl m
  · exact .refl m

theorem quiet_load (names : UnitNames) : m.Quiet (b.load m names).2 := by
  simp only [load]
  split
  · exact .refl m
  · exact m.quiet_discard ..

theorem quiet_finishRun (unit : SourceUnit) (run : Run) : m.Quiet (b.finishRun m unit run).2 := by
  have left := m.quiet_leave b.scratch (Settings.libraryFile unit.names) run.left
  simp only [finishRun]
  split
  · have loaded := b.quiet_load (b.leave m unit run.left) unit.names
    split
    · rename_i machine same
      rw [same] at loaded
      exact left.trans loaded
    · rename_i machine same
      rw [same] at loaded
      exact left.trans loaded
  · exact left

/-- Making something of what came of a call is quiet. -/
theorem quiet_finish? {b : Bench} {m m' : Machine} {c : Compilation}
    {built : Except Failure BuiltUnit} (h : b.finish? m c = some (built, m')) : m.Quiet m' := by
  have waited := m.quiet_waitUntil (c.due?.getD 0)
  simp only [finish?] at h
  split at h
  · obtain ⟨-, rfl⟩ := Prod.mk.inj (Option.some.inj h)
    exact waited
  · simp at h
  · obtain ⟨-, rfl⟩ := Prod.mk.inj (Option.some.inj h)
    exact waited.trans (Machine.quiet_leave ..)
  · obtain rfl := congrArg Prod.snd (Option.some.inj h)
    exact waited.trans (quiet_finishRun ..)

/-- What came of a call is there at some time, unless the run never ends. -/
theorem finish?_eq_none {b : Bench} {m : Machine} {c : Compilation} :
    b.finish? m c = none ↔ c.due? = none := by
  obtain ⟨unit, response, began⟩ := c
  cases response with
  | unstarted fault => simp [finish?, Compilation.due?]
  | started course killed => cases course <;> simp [finish?, Compilation.due?, Course.elapsed?]

end Bench

namespace Workshop

/-- From one workshop to another, the hosts stayed, and the machine was steady. -/
structure Steady (w w' : Workshop) : Prop where
  machine : w.machine.Steady w'.machine
  hosts : w'.hosts = w.hosts

theorem Steady.refl (w : Workshop) : w.Steady w := ⟨.refl _, rfl⟩

theorem Steady.trans {w₁ w₂ w₃ : Workshop} (h₁ : w₁.Steady w₂) (h₂ : w₂.Steady w₃) :
    w₁.Steady w₃ :=
  ⟨h₁.machine.trans h₂.machine, h₂.hosts.trans h₁.hosts⟩

/-- From one workshop to another, the machine was quiet, no names were taken, and the hosts
stayed. -/
structure Quiet (w w' : Workshop) : Prop where
  machine : w.machine.Quiet w'.machine
  names : w'.names = w.names
  hosts : w'.hosts = w.hosts

theorem Quiet.steady {w w' : Workshop} (h : w.Quiet w') : w.Steady w' :=
  ⟨h.machine.toSteady, h.hosts⟩

theorem Quiet.refl (w : Workshop) : w.Quiet w := ⟨.refl _, rfl, rfl⟩

theorem Quiet.trans {w₁ w₂ w₃ : Workshop} (h₁ : w₁.Quiet w₂) (h₂ : w₂.Quiet w₃) : w₁.Quiet w₃ where
  machine := h₁.machine.trans h₂.machine
  names := h₂.names.trans h₁.names
  hosts := h₂.hosts.trans h₁.hosts

theorem quiet_machine (w : Workshop) {machine : Machine} (h : w.machine.Quiet machine) :
    w.Quiet { w with machine } := ⟨h, rfl, rfl⟩

theorem quiet_note (w : Workshop) (notice : Notice) : w.Quiet (w.note notice) :=
  w.quiet_machine (w.machine.quiet_note notice)

theorem quiet_noteFailure (w : Workshop) (expression : String) (failure : Failure) :
    w.Quiet (w.noteFailure expression failure) := by
  unfold noteFailure
  split
  · exact w.quiet_note _
  · exact .refl w

theorem quiet_fail (w : Workshop) (r : Request) (failure : Failure) :
    w.Quiet (w.fail r failure).2 :=
  w.quiet_noteFailure r.expression failure

theorem quiet_instantiate (w : Workshop) (bench : Bench) (names : UnitNames) (built : BuiltUnit) :
    w.Quiet (w.instantiate bench names built).2 := by
  unfold instantiate
  split
  · exact ⟨.refl _, rfl, rfl⟩
  · exact w.quiet_machine (w.machine.quiet_discard ..)

theorem quiet_settle (w : Workshop) (host : Host) (unit : SourceUnit)
    (built : Except Failure BuiltUnit) : w.Quiet (w.settle host unit built).2 := by
  cases built with
  | ok built => exact w.quiet_instantiate ..
  | error failure => exact .refl w

/-- To take up what came of a call, and to make something of it, is quiet. -/
theorem quiet_end {w : Workshop} {host : Host} {c : Compilation} {built : Except Failure BuiltUnit}
    {machine : Machine} (finished : host.bench.finish? w.machine c = some (built, machine)) :
    w.Quiet (({ w with machine } : Workshop).settle host c.unit built).2 :=
  (w.quiet_machine (Bench.quiet_finish? finished)).trans (quiet_settle _ host c.unit built)

theorem quiet_call (w : Workshop) (handle : Handle) (x : Float) : w.Quiet (w.call handle x).2 := by
  cases handle with
  | null => exact .refl w
  | compiled number unit =>
    simp only [call]
    split
    · exact .refl w
    · exact ⟨.refl _, rfl, rfl⟩

theorem quiet_release (w : Workshop) (inUse : Nat → Bool) : w.Quiet (w.release inUse) := by
  refine ⟨?_, rfl, rfl⟩
  simp only [release]
  generalize (w.residents.partition fun r => inUse r.number).2 = gone
  generalize w.machine = m
  induction gone generalizing m with
  | nil => exact .refl m
  | cons r gone ih => exact (m.quiet_discard r.scratch r.file).trans (ih _)

theorem quiet_abandon (w : Workshop) (r : Request) (phase : Phase) :
    w.Quiet (w.abandon r phase) := by
  unfold abandon
  split
  · exact w.quiet_machine (Bench.quiet_drop ..)
  · exact .refl w

theorem quiet_land (w : Workshop) (r : Request) (phase : Phase) : w.Quiet (w.land r phase) := by
  unfold land
  split
  · exact w.quiet_machine (Bench.quiet_land ..)
  · exact .refl w

/-! ### What a step of a request comes to -/

variable {w w' : Workshop} {host : Host} {c : Compilation} {result : Except Failure Verdict}

/-- What came of a call for which a request to a host waited, and the workshop in which the host is
done with it. -/
def Ends (w : Workshop) (host : Host) (c : Compilation) (result : Except Failure Verdict)
    (w' : Workshop) : Prop :=
  ∃ built machine, host.bench.finish? w.machine c = some (built, machine) ∧
    ({ w with machine } : Workshop).settle host c.unit built = (result, w')

theorem Ends.quiet (h : w.Ends host c result w') : w.Quiet w' := by
  obtain ⟨built, machine, finished, settled⟩ := h
  have quiet := quiet_end finished
  rwa [settled] at quiet

theorem Ends.quiet_note (h : w.Ends host c result w') (notice : Notice) :
    w.Quiet (w'.note notice) :=
  h.quiet.trans (w'.quiet_note notice)

theorem Ends.quiet_fail (h : w.Ends host c result w') (r : Request) (failure : Failure) :
    w.Quiet (w'.fail r failure).2 :=
  h.quiet.trans (w'.quiet_fail r failure)

/-- The phase to which a step of a request comes, and the workshop then. -/
inductive Advances (w : Workshop) (r : Request) : Phase → Phase × Workshop → Prop
  /-- The request can go no further, or has no host. -/
  | stuck {phase : Phase} (halted : phase.moves = true → w.hosts[r.host]? = none) :
      Advances w r phase (phase, w)
  /-- The first attempt begins. -/
  | first {host : Host} (found : w.hosts[r.host]? = some host) :
      Advances w r .queued (w.attempt r host 0)
  /-- The host made something of what came of the call. -/
  | made {host : Host} {retried : UInt32} {c : Compilation} {verdict : Verdict} {w' : Workshop}
      (found : w.hosts[r.host]? = some host) (ended : w.Ends host c (.ok verdict) w') :
      Advances w r (.compiling retried c) (.done verdict, w')
  /-- The library was not loaded, and another attempt begins. -/
  | again {host : Host} {retried : UInt32} {c : Compilation} {failure : Failure} {w' : Workshop}
      (found : w.hosts[r.host]? = some host) (ended : w.Ends host c (.error failure) w')
      (loading : failure.isLoading = true) (left : retried < host.retries) :
      Advances w r (.compiling retried c)
        ((w'.note (.retrying failure)).attempt r host (retried + 1))
  /-- The request fails. -/
  | failed {host : Host} {retried : UInt32} {c : Compilation} {failure : Failure} {w' : Workshop}
      (found : w.hosts[r.host]? = some host) (ended : w.Ends host c (.error failure) w') :
      Advances w r (.compiling retried c) (w'.fail r failure)

/-- **What a step of a request comes to.** -/
theorem advances (w : Workshop) (r : Request) (phase : Phase) :
    w.Advances r phase (w.advance r phase) := by
  unfold advance
  cases found : w.hosts[r.host]? with
  | none => exact .stuck fun _ => found
  | some host =>
    cases phase with
    | queued => exact .first found
    | done verdict => exact .stuck fun moves => by simp [Phase.moves] at moves
    | compiling retried c =>
      simp only [advanceOn]
      cases finished : host.bench.finish? w.machine c with
      | none =>
        refine .stuck fun moves => ?_
        rw [Bench.finish?_eq_none] at finished
        simp [Phase.moves, finished] at moves
      | some taken =>
        obtain ⟨built, machine⟩ := taken
        cases settled : ({ w with machine } : Workshop).settle host c.unit built with
        | mk result w' =>
          have ended : w.Ends host c result w' := ⟨built, machine, finished, settled⟩
          dsimp only
          rw [settled]
          cases result with
          | ok verdict => exact .made found ended
          | error failure =>
            simp only [conclude]
            split
            · rename_i again
              rw [Bool.and_eq_true, decide_eq_true_iff] at again
              exact .again found ended again.1 again.2
            · exact .failed found ended

end Workshop

end Plotter
