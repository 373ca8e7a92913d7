import Plotter.Proofs.Request.Instances

/-!
# What the host requires of a library

Six things are required of a library that was loaded, and they are looked at in an order
(`Requirement.all`): it must export the symbol for the version and report the right one, export the
three other symbols, and make an instance. Whether the first five are met is found out when the
library is loaded, and the last when an instance is made of it. A unit fails by the first one that
is not met, whatever else its library lacks.

## What is proved

* `LoadedUnit.build_library`: what comes of a library that can be loaded.
* `Trial.Sound.made_iff`: a trial makes an instance just in case it finds a library that meets all
  requirements.
* `Trial.Sound.result_of_finds`: a trial that finds another library fails by the first requirement
  that is not met.
-/

namespace Plotter

/-- Something that is required of a library. -/
inductive Requirement
  /-- It exports a symbol. -/
  | exports (symbol : Symbol)
  /-- It reports the version of the interface that the host knows. -/
  | version
  /-- Its constructor makes an instance. -/
  | constructs
  deriving Repr, DecidableEq

namespace Requirement

/-- All that is required, in the order in which it is looked at. -/
def all : List Requirement :=
  [.exports .version, .version, .exports .construct, .exports .eval, .exports .destroy, .constructs]

/-- Whether a library meets a requirement. -/
def metBy (l : Library) : Requirement → Bool
  | exports symbol => l.exports symbol
  | version => l.version == interfaceVersion
  | constructs => l.constructs

/-- How a unit fails whose library does not meet a requirement. -/
def failure (unit : String) (l : Library) : Requirement → Failure
  | exports symbol => .capability unit (.missing symbol)
  | version => .capability unit (.version l.version)
  | constructs => .instantiation unit "constructor returned null"

theorem infix_of_middle (before unit after rest : String) :
    unit.toList <:+: (before ++ unit ++ after ++ rest).toList := by
  refine ⟨before.toList, after.toList ++ rest.toList, ?_⟩
  simp only [String.toList_append, List.append_assoc]

/-- The failure tells of which unit it is. -/
theorem unit_infix_message (q : Requirement) (unit : String) (l : Library) :
    unit.toList <:+: (q.failure unit l).message.toList := by
  cases q <;> exact infix_of_middle _ unit _ _

end Requirement

namespace Library

/-- The first requirement that a library does not meet, if there is one. -/
def unmet? (l : Library) : Option Requirement := Requirement.all.find? fun q => !q.metBy l

theorem unmet?_eq_none {l : Library} : l.unmet? = none ↔ ∀ q ∈ Requirement.all, q.metBy l = true := by
  simp [unmet?]

/-- A requirement that is not met is the first one if those before it are met. -/
theorem unmet?_of_first {l : Library} {before after : List Requirement} {q : Requirement}
    (order : Requirement.all = before ++ q :: after) (met : ∀ p ∈ before, p.metBy l = true)
    (unmet : q.metBy l = false) : l.unmet? = some q := by
  have passed : before.find? (fun p => !p.metBy l) = none := by simpa using met
  rw [unmet?, order, List.find?_append, passed, Option.none_or, List.find?_cons, unmet]
  rfl

/-- Whether a library is accepted, and makes instances, is a matter of the requirements. -/
theorem capable_iff {l : Library} : l.Capable ↔ l.unmet? = none := by
  constructor
  · rintro ⟨accepted, constructs⟩
    unfold shortfall? at accepted
    rw [unmet?_eq_none]
    split at accepted
    · simp at accepted
    · split at accepted
      · simp at accepted
      · simp_all [Requirement.all, Requirement.metBy]
  · intro met
    rw [unmet?_eq_none] at met
    have exported (s : Symbol) (member : .exports s ∈ Requirement.all) : l.exports s = true :=
      met (.exports s) member
    have version : l.version = interfaceVersion := by
      simpa [Requirement.metBy] using met .version (by decide)
    refine ⟨?_, met .constructs (by decide)⟩
    simp [shortfall?, exported .version (by decide), version, exported .construct (by decide),
      exported .eval (by decide), exported .destroy (by decide)]

end Library

namespace LoadedUnit

/-- **What comes of a library that can be loaded**: an instance, or the failure for the first
requirement that is not met. -/
theorem build_library {name path : String} (clean : path.toList.dropLast.contains '\x00' = false)
    (l : Library) :
    (load name path (some (.library l))).bind instantiate =
      match l.unmet? with
      | none => .ok { unit := name, library := l }
      | some q => .error (q.failure name l) := by
  unfold load
  rw [clean, if_neg Bool.false_ne_true]
  unfold Library.shortfall? Library.unmet? Requirement.all
  simp only [List.find?_cons, List.find?_nil, Requirement.metBy]
  -- One requirement after the other: the first that is not met decides.
  cases l.exports .version with
  | false => rfl
  | true =>
    by_cases version : l.version = interfaceVersion
    · simp only [version]
      cases l.exports .construct with
      | false => rfl
      | true =>
        cases l.exports .eval with
        | false => rfl
        | true =>
          cases l.exports .destroy with
          | false => rfl
          | true => cases constructs : l.constructs <;> simp [Except.bind, instantiate, constructs,
              Requirement.failure]
    · have other : (l.version == interfaceVersion) = false := beq_eq_false_iff_ne.2 version
      simp [version, other, Except.bind, Requirement.failure]

/-- Only a library on a path without zero characters is loaded. -/
theorem library_of_load {name path : String} {left : Option Product} {loaded : LoadedUnit}
    (h : load name path left = .ok loaded) :
    path.toList.dropLast.contains '\x00' = false ∧ ∃ l, left = some (.library l) := by
  unfold load at h
  split at h
  · simp at h
  · rename_i clean
    split at h
    · rename_i l
      exact ⟨Bool.not_eq_true _ ▸ clean, l, rfl⟩
    · simp at h

end LoadedUnit

/-! ### What is there when a run is over -/

/-- Where the library of a unit is put. -/
def Bench.placeOf (b : Bench) (unit : SourceUnit) : Place :=
  ⟨b.scratch, Settings.libraryFile unit.names⟩

namespace Bench

variable {b : Bench} {m : Machine} {unit : SourceUnit} {run : Run}

theorem libraryPath_leave (b : Bench) (m : Machine) (unit : SourceUnit) (left : Option Product)
    (names : UnitNames) : b.libraryPath (b.leave m unit left) names = b.libraryPath m names := by
  simp only [libraryPath, leave, Machine.scratchPath, (m.quiet_leave ..).temporary]

/-- A library that is there after a run that succeeded is loaded. -/
theorem finishRun_of_library (success : run.status.success = true) {l : Library}
    (found : (b.leave m unit run.left).at? (b.placeOf unit) = some (.library l)) :
    (b.finishRun m unit run).1 =
      (LoadedUnit.load unit.names.qualified (b.libraryPath m unit.names) (some (.library l))).map
        fun loaded => ⟨loaded, run.warnings unit.start, run.elapsed⟩ := by
  have there : (b.leave m unit run.left).product? b.scratch (Settings.libraryFile unit.names) =
      some (.library l) := found
  simp only [finishRun, there, Run.compiled, success, Option.isSome_some, Bool.and_self, if_true,
    Bench.load, b.libraryPath_leave]
  cases LoadedUnit.load unit.names.qualified (b.libraryPath m unit.names) (some (.library l)) <;> rfl

/-- Nothing else is. -/
theorem library_of_finishRun {built : BuiltUnit} (h : (b.finishRun m unit run).1 = .ok built) :
    run.status.success = true ∧ (b.libraryPath m unit.names).toList.dropLast.contains '\x00' = false ∧
      ∃ l, (b.leave m unit run.left).at? (b.placeOf unit) = some (.library l) := by
  simp only [finishRun] at h
  split at h
  · rename_i compiled
    rw [Run.compiled, Bool.and_eq_true] at compiled
    simp only [Bench.load, b.libraryPath_leave] at h
    generalize result : LoadedUnit.load _ _ _ = loaded at h
    cases loaded with
    | error failure => simp at h
    | ok loaded => exact ⟨compiled.1, LoadedUnit.library_of_load result⟩
  · simp at h

end Bench

/-- What becomes of a unit is what comes of its library. -/
theorem Workshop.settle_map (w : Workshop) (host : Host) (unit : SourceUnit)
    (loaded : Except Failure LoadedUnit) (warnings : List Diagnostic) (elapsed : Nat) :
    (w.settle host unit (loaded.map fun u => ⟨u, warnings, elapsed⟩)).1 =
      (loaded.bind LoadedUnit.instantiate).map fun body => .made w.made body.unit warnings elapsed := by
  cases loaded with
  | error failure => rfl
  | ok u =>
    simp only [Except.map, Except.bind, settle, instantiate, LoadedUnit.instantiate]
    cases u.library.constructs <;> rfl

namespace Trial

/-- In a trial the compiler was started, took the whole source and ended with success, and then
there was a library at the place that it was told, on a path that can be loaded. -/
structure Finds (t : Trial) (host : Host) (run : Run) (l : Library) : Prop where
  ended : ∃ killed, t.compilation.response = .started (.ended run) killed
  success : run.status.success = true
  found : (host.bench.leave t.resumed.machine t.compilation.unit run.left).at?
    (host.bench.placeOf t.compilation.unit) = some (.library l)
  clean : (host.bench.libraryPath t.resumed.machine
    t.compilation.unit.names).toList.dropLast.contains '\x00' = false

variable {t : Trial} {r : Request} {host : Host} {run : Run} {l : Library}

/-- To wait for the end of a run leaves the scratch directories as they are. -/
theorem at?_leave_waitUntil (b : Bench) (m : Machine) (time : Nat) (unit : SourceUnit)
    (left : Option Product) (p : Place) :
    (b.leave (m.waitUntil time) unit left).at? p = (b.leave m unit left).at? p := by
  cases left <;> rfl

/-- What a trial finds is loaded, and something is made of it. -/
theorem Sound.settled_of_finds (h : t.Sound r host) (finds : t.Finds host run l) :
    ∃ machine, ({ t.resumed with machine } : Workshop).settle host t.compilation.unit
      ((LoadedUnit.load t.compilation.unit.names.qualified
        (host.bench.libraryPath t.resumed.machine t.compilation.unit.names)
          (some (.library l))).map
            fun u => ⟨u, run.warnings t.compilation.unit.start, run.elapsed⟩) =
      (t.result, t.after) := by
  obtain ⟨built, machine, finished, settled⟩ := h.ended
  obtain ⟨killed, response⟩ := finds.ended
  simp only [Bench.finish?, response, Option.some.injEq] at finished
  have loaded := congrArg Prod.fst finished
  dsimp only at loaded
  rw [Bench.finishRun_of_library finds.success
    (by rw [at?_leave_waitUntil]; exact finds.found)] at loaded
  refine ⟨machine, ?_⟩
  rw [← settled, ← loaded]
  rfl

/-- **What a trial makes of a library that it finds.** -/
theorem Sound.result_of_finds (h : t.Sound r host) (finds : t.Finds host run l) :
    t.result = match l.unmet? with
      | none => .ok (.made t.resumed.made t.compilation.unit.names.qualified
          (run.warnings t.compilation.unit.start) run.elapsed)
      | some q => .error (q.failure t.compilation.unit.names.qualified l) := by
  obtain ⟨machine, settled⟩ := h.settled_of_finds finds
  have result : t.result = _ := (congrArg Prod.fst settled).symm
  rw [Workshop.settle_map, LoadedUnit.build_library finds.clean] at result
  rw [result]
  cases l.unmet? <;> rfl

/-- The instance that a trial makes is one of the library that it finds. -/
theorem Sound.resident_of_finds (h : t.Sound r host) (finds : t.Finds host run l)
    (met : l.unmet? = none) :
    ⟨t.resumed.made, host.bench.scratch, Settings.libraryFile t.compilation.unit.names,
      { unit := t.compilation.unit.names.qualified, library := l }⟩ ∈ t.after.residents := by
  obtain ⟨machine, settled⟩ := h.settled_of_finds finds
  obtain ⟨accepted, constructs⟩ := Library.capable_iff.2 met
  have loaded : LoadedUnit.load t.compilation.unit.names.qualified
      (host.bench.libraryPath t.resumed.machine t.compilation.unit.names) (some (.library l)) =
        .ok ⟨t.compilation.unit.names.qualified,
          host.bench.libraryPath t.resumed.machine t.compilation.unit.names, l⟩ := by
    rw [LoadedUnit.load, finds.clean, if_neg Bool.false_ne_true]
    simp only [accepted]
  have after : t.after = _ := (congrArg Prod.snd settled).symm
  rw [loaded] at after
  simp only [Except.map, Workshop.settle, Workshop.instantiate, LoadedUnit.instantiate, constructs,
    if_true, Workshop.lodge] at after
  rw [after]
  exact List.mem_append_right _ (List.mem_singleton_self _)

/-- **What it takes for a trial to make an instance.** -/
theorem Sound.made_iff (h : t.Sound r host) :
    (∃ verdict, t.result = .ok verdict) ↔ ∃ run l, t.Finds host run l ∧ l.unmet? = none := by
  constructor
  · rintro ⟨verdict, made⟩
    obtain ⟨built, machine, finished, settled⟩ := h.ended
    have result : _ = t.result := congrArg Prod.fst settled
    rw [made] at result
    cases built with
    | error failure => simp [Workshop.settle] at result
    | ok built =>
      unfold Bench.finish? at finished
      split at finished
      · simp at finished
      · simp at finished
      · simp at finished
      · rename_i run killed response
        obtain ⟨success, clean, l, found⟩ :=
          Bench.library_of_finishRun (congrArg Prod.fst (Option.some.inj finished))
        rw [at?_leave_waitUntil] at found
        have finds : t.Finds host run l := ⟨⟨killed, response⟩, success, found, clean⟩
        refine ⟨run, l, finds, ?_⟩
        have result := h.result_of_finds finds
        rw [made] at result
        cases unmet : l.unmet? with
        | none => rfl
        | some q => simp [unmet] at result
  · rintro ⟨run, l, finds, met⟩
    have result := h.result_of_finds finds
    rw [met] at result
    exact ⟨_, result⟩

end Trial

end Plotter
