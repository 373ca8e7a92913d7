import Plotter.Proofs.Request.Residue

/-!
# Requests that nothing disturbs

A request that is pursued alone finds at the place of each of its libraries what its own run left, and
nothing else. What a host makes of a run is then a matter of the run alone (`Compilation.outcome?`):
what else is on the machine and where the library is does not come into it.

## What is proved

* `Workshop.Ends.outcome`: what a host makes of a run for which nothing else comes in.
* `Workshop.Undisturbed.advance`: a step of a request that is undisturbed leaves it undisturbed.
* `Workshop.Ends.sited`: nor does the end of a run change what programs can be started.
-/

namespace Plotter

/-- What a run that ended makes of its unit, where what it left is found and can be loaded. An
instance of the unit has a number. -/
def Run.outcome (run : Run) (unit : SourceUnit) (number : Nat) : Except Failure Verdict :=
  let name := unit.names.qualified
  if run.compiled run.left then
    match run.left with
    | some (.library l) =>
      match l.shortfall? with
      | some shortfall => .error (.capability name shortfall)
      | none =>
        if l.constructs then .ok (.made number name (run.warnings unit.start) run.elapsed)
        else .error (.instantiation name "constructor returned null")
    | _ => .error (.loading .refused)
  else .error (.compilation name (run.complaints unit.start))

/-- What a call of a program makes of its unit, unless the run never ends. -/
def Compilation.outcome? (c : Compilation) (program : String) (number : Nat) :
    Option (Except Failure Verdict) :=
  match c.response with
  | .unstarted fault => some (.error (.toolchain (.unstartable program fault)))
  | .started .endless _ => none
  | .started (.deaf fault) _ => some (.error (.system fault))
  | .started (.ended run) _ => some (run.outcome c.unit number)

/-! ### The end of a run -/

/-- A unit is loaded from what its run left, and an instance made of it. -/
theorem Workshop.settle_finishRun {w : Workshop} {host : Host} {c : Compilation} {run : Run}
    {killed : Option Product} (clear : host.bench.Clear w.machine c)
    (clean : '\x00' ∉ (host.bench.libraryPath w.machine c.unit.names).toList)
    (response : c.response = .started (.ended run) killed) :
    (({ w with machine := (host.bench.finishRun w.machine c.unit run).2 } : Workshop).settle host
      c.unit (host.bench.finishRun w.machine c.unit run).1).1 = run.outcome c.unit w.made := by
  have left : (host.bench.leave w.machine c.unit run.left).product? host.bench.scratch
      (Settings.libraryFile c.unit.names) = run.left := clear.at?_leave response
  have loadable : (host.bench.libraryPath w.machine c.unit.names).toList.dropLast.contains '\x00' =
      false := by
    rw [List.contains_eq_mem, decide_eq_false_iff_not]
    exact fun member => clean (List.mem_of_mem_dropLast member)
  simp only [Bench.finishRun, Bench.load, left, host.bench.libraryPath_leave, LoadedUnit.load,
    loadable, Bool.false_eq_true, if_false, Run.outcome]
  split
  · generalize host.bench.leave w.machine c.unit run.left = machine
    cases run.left with
    | none => rfl
    | some product =>
      cases product with
      | library l =>
        cases accepted : l.shortfall? with
        | some shortfall => simp only [accepted, settle]
        | none =>
          simp only [accepted, settle, instantiate, LoadedUnit.instantiate]
          cases l.constructs <;> rfl
      | _ => rfl
  · rfl

/-- **What a host makes of a run for which nothing else comes in** is a matter of the run. -/
theorem Workshop.Ends.outcome {w w' : Workshop} {host : Host} {c : Compilation}
    {result : Except Failure Verdict} (h : w.Ends host c result w')
    (clear : host.bench.Clear w.machine c)
    (clean : '\x00' ∉ (host.bench.libraryPath w.machine c.unit.names).toList) :
    c.outcome? host.bench.toolchain.path w.made = some result := by
  obtain ⟨built, machine, finished, settled⟩ := h
  have result : (({ w with machine } : Workshop).settle host c.unit built).1 = result :=
    congrArg Prod.fst settled
  simp only [Bench.finish?] at finished
  split at finished
  · rename_i fault response
    obtain ⟨rfl, rfl⟩ := Prod.mk.inj (Option.some.inj finished)
    simp only [Compilation.outcome?, response]
    exact congrArg some result
  · cases finished
  · rename_i fault killed response
    obtain ⟨rfl, rfl⟩ := Prod.mk.inj (Option.some.inj finished)
    simp only [Compilation.outcome?, response]
    exact congrArg some result
  · rename_i run killed response
    let waited : Workshop := { w with machine := w.machine.waitUntil (c.due?.getD 0) }
    have made := waited.settle_finishRun (clear.waitUntil _) clean response
    obtain rfl := congrArg Prod.fst (Option.some.inj finished)
    obtain rfl := congrArg Prod.snd (Option.some.inj finished)
    simp only [Compilation.outcome?, response]
    exact congrArg some (made.symm.trans result)

namespace Workshop

/-! ### Undisturbed requests -/

/-- Nothing comes in between a request and the compiler: the template is read, there is a directory
for the libraries with paths that can be loaded, and nothing is in it at the place of the run under
way but what the run left. -/
structure Undisturbed (w : Workshop) (r : Request) (phase : Phase) : Prop where
  ready : w.Ready
  ledger : w.Ledger (phase.jobs w.hosts r false)
  clean : w.NoZero r phase
  roomed : ∀ host ∈ w.hosts, w.machine.hasScratch host.bench.scratch = true

variable {w : Workshop} {r : Request} {phase : Phase}

/-- A request to a host that was set up and not used yet. -/
theorem Furnished.undisturbed (furnished : w.Furnished) (r : Request) :
    w.Undisturbed r .queued where
  ready := furnished.ready
  ledger := furnished.ledger
  clean := by
    intro retried c host compiling
    cases compiling
  roomed := fun host member => (furnished.untouched.roomed host member).2

namespace Undisturbed

/-- What is at the place of the run under way. -/
theorem clear {host : Host} {retried : UInt32} {c : Compilation}
    (h : w.Undisturbed r (.compiling retried c)) (found : w.hosts[r.host]? = some host) :
    host.bench.Clear w.machine c where
  there := h.roomed host (List.mem_of_getElem? found)
  own := by
    have ledger := h.ledger
    rw [Phase.jobs_compiling found] at ledger
    exact ledger.own (j := ⟨host.bench.scratch, c, false⟩) (List.mem_singleton_self _)

/-- **A step of an undisturbed request leaves it undisturbed**, as long as the serial numbers of names
have not come round. -/
theorem advance (h : w.Undisturbed r phase)
    (bound : (w.advance r phase).2.machine.attempts.length ≤ UInt64.size) :
    (w.advance r phase).2.Undisturbed r (w.advance r phase).1 := by
  have steady := advance_steady h.ready r phase
  have hosts := steady.hosts
  refine ⟨steady.ready h.ready, ?_, ?_, fun host member => ?_⟩
  · have ledger : w.Ledger (phase.jobs w.hosts r false ++ []) := by
      rw [List.append_nil]
      exact h.ledger
    have kept := ledger_advance h.ready ledger bound
    rwa [List.append_nil, ← hosts] at kept
  · intro retried c host compiling found
    have clean := noZero_advance h.ready h.clean retried c host compiling (hosts ▸ found)
    simpa only [Bench.libraryPath, Machine.scratchPath, steady.machine.temporary] using clean
  · rw [sameRooms_advance h.ready r phase]
    exact h.roomed host (hosts ▸ member)

end Undisturbed

end Workshop

/-! ### Programs that can be started -/

/-- From one machine to another, the files and the place where programs are looked up stayed. -/
structure Machine.Sited (m m' : Machine) : Prop where
  files : m'.files = m.files
  searchPath : m'.searchPath = m.searchPath

namespace Machine.Sited

variable {m m' m'' : Machine}

theorem refl (m : Machine) : m.Sited m := ⟨rfl, rfl⟩

theorem trans (h : m.Sited m') (h' : m'.Sited m'') : m.Sited m'' :=
  ⟨h'.files.trans h.files, h'.searchPath.trans h.searchPath⟩

/-- The same programs can be started. -/
theorem start_eq (h : m.Sited m') (program : String) : m'.start program = m.start program := by
  simp only [start, h.files, h.searchPath]

/-- The same programs can be started in every directory. -/
theorem startIn_eq (h : m.Sited m') (directory program : String) :
    m'.startIn directory program = m.startIn directory program := by
  simp only [startIn, start, h.files, h.searchPath]

theorem leave (m : Machine) (number : Nat) (file : String) (left : Option Product) :
    m.Sited (m.leave number file left) := by
  cases left <;> exact ⟨rfl, rfl⟩

theorem discard (m : Machine) (number : Nat) (file : String) :
    m.Sited (m.discard number file) := by
  unfold Machine.discard
  split <;> exact ⟨rfl, rfl⟩

theorem finishRun (b : Bench) (m : Machine) (unit : SourceUnit) (run : Run) :
    m.Sited (b.finishRun m unit run).2 := by
  have left : m.Sited (b.leave m unit run.left) := leave ..
  have gone : m.Sited ((b.leave m unit run.left).discard b.scratch
    (Settings.libraryFile unit.names)) := left.trans (discard ..)
  simp only [Bench.finishRun, Bench.load]
  split
  · generalize LoadedUnit.load _ _ _ = loaded
    cases loaded with
    | ok loaded => exact left
    | error failure => exact gone
  · exact left

theorem finish? {b : Bench} {c : Compilation} {built : Except Failure BuiltUnit}
    (h : b.finish? m c = some (built, m')) : m.Sited m' := by
  have waited : m.Sited (m.waitUntil (c.due?.getD 0)) := ⟨rfl, rfl⟩
  simp only [Bench.finish?] at h
  split at h
  · obtain ⟨-, rfl⟩ := Prod.mk.inj (Option.some.inj h)
    exact waited
  · cases h
  · obtain ⟨-, rfl⟩ := Prod.mk.inj (Option.some.inj h)
    exact waited.trans (leave ..)
  · obtain rfl := congrArg Prod.snd (Option.some.inj h)
    exact waited.trans (finishRun ..)

end Machine.Sited

namespace Workshop

variable {w w' : Workshop} {r : Request} {host : Host}

theorem Ends.sited {c : Compilation} {result : Except Failure Verdict}
    (h : w.Ends host c result w') : w.machine.Sited w'.machine := by
  obtain ⟨built, machine, finished, settled⟩ := h
  have taken := Machine.Sited.finish? finished
  have made : machine.Sited
      (({ w with machine } : Workshop).settle host c.unit built).2.machine := by
    cases built with
    | error failure => exact .refl _
    | ok built =>
      simp only [settle, instantiate]
      split
      · exact .refl _
      · exact .discard ..
  rw [settled] at made
  exact taken.trans made

theorem sited_fail (w : Workshop) (r : Request) (failure : Failure) :
    w.machine.Sited (w.fail r failure).2.machine := by
  simp only [fail, noteFailure]
  split <;> exact ⟨rfl, rfl⟩

end Workshop

end Plotter
