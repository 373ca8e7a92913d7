import Plotter.Compiler.Outcome
import Plotter.Compiler.Settings
import Plotter.Loading

/-!
# The bench

A bench is a toolchain with settings and a scratch directory: all that is needed to compile a
unit and to load the library that comes of it. Compiling is in two steps, the call and what is
made of the response, so that a call can be dropped in between.

A run takes its time and leaves what it leaves when it is over, whether somebody waits for it
then or not. Whoever makes something of the response waits for the end first; a run that is
killed before its end leaves what a killed run leaves.
-/

namespace Plotter

/-- Where units are compiled. -/
structure Bench where
  settings : Settings
  toolchain : Toolchain
  /-- The number of the scratch directory. -/
  scratch : Nat
  deriving Repr, DecidableEq

/-- A call for a unit. -/
structure Compilation where
  unit : SourceUnit
  response : Response
  /-- The time of the call. -/
  began : Nat

namespace Compilation

/-- The time at which a call is over, if it comes to an end: the first after the full
milliseconds that it takes. -/
def due? (c : Compilation) : Option Nat :=
  match c.response with
  | .unstarted _ => some c.began
  | .started course _ => course.elapsed?.map fun elapsed => c.began + elapsed + 1

/-- Whether a call is over at a time. -/
def isOver (c : Compilation) (time : Nat) : Bool := c.due?.any fun due => due ≤ time

/-- What a call has left if it is dropped at a time. -/
def leftAt (c : Compilation) (time : Nat) : Option Product :=
  match c.response with
  | .unstarted _ => none
  | .started (.ended run) killed => if c.isOver time then run.left else killed
  | .started _ killed => killed

end Compilation

/-- A unit that was compiled and loaded. -/
structure BuiltUnit where
  loaded : LoadedUnit
  warnings : List Diagnostic
  /-- The milliseconds that the compilation took. -/
  elapsed : Nat

namespace Bench

/-! ### Setting up -/

/-- Make the directory in which the scratch directory is to be made. -/
def makeParent (m : Machine) : Option String → Except Failure Machine
  | none => .ok m
  | some path =>
    match m.files.makePath path with
    | .ok files => .ok { m with files }
    | .error fault => .error (.system fault)

/-- A bench with a toolchain already found. -/
def withToolchain (m : Machine) (settings : Settings) (toolchain : Toolchain) :
    Except Failure (Bench × Machine) :=
  if Settings.maxOptimization < settings.optimization then
    .error (.configuration (.optimization settings.optimization))
  else
    match makeParent m settings.scratchParent with
    | .error failure => .error failure
    | .ok m =>
      match m.openScratchIn settings.scratchParent with
      | .error fault => .error (.system fault)
      | .ok (scratch, m) => .ok (⟨settings, toolchain, scratch⟩, m)

/-- A bench with the toolchain that its settings name. -/
def setUp (m : Machine) (settings : Settings) : Except Failure (Bench × Machine) :=
  match Toolchain.detect m settings.compiler with
  | .error failure => .error failure
  | .ok toolchain => withToolchain m settings toolchain

/-! ### Compiling -/

/-- Where a unit's library is put. -/
def libraryPath (b : Bench) (m : Machine) (names : UnitNames) : String :=
  m.scratchPath b.scratch (Settings.libraryFile names)

/-- The call for a unit. -/
def callFor (b : Bench) (m : Machine) (unit : SourceUnit) : Call where
  directory := m.temporary b.scratch
  arguments := b.settings.arguments b.toolchain unit.names (b.libraryPath m unit.names)
  source := unit.source

/-- Call the compiler for a unit. -/
def call (b : Bench) (m : Machine) (unit : SourceUnit) : Compilation × Machine :=
  let (response, m) := m.call b.toolchain.path (b.callFor m unit)
  (⟨unit, response, m.clock⟩, m)

/-- Put what was left for a unit in its place. -/
def leave (b : Bench) (m : Machine) (unit : SourceUnit) (left : Option Product) : Machine :=
  m.leave b.scratch (Settings.libraryFile unit.names) left

/-- Load what was left for a unit, and remove it if it is not accepted. -/
def load (b : Bench) (m : Machine) (names : UnitNames) : Except Failure LoadedUnit × Machine :=
  let file := Settings.libraryFile names
  match LoadedUnit.load names.qualified (b.libraryPath m names) (m.product? b.scratch file) with
  | .ok loaded => (.ok loaded, m)
  | .error failure => (.error failure, m.discard b.scratch file)

/-- What a run that ended makes of a unit. -/
def finishRun (b : Bench) (m : Machine) (unit : SourceUnit) (run : Run) :
    Except Failure BuiltUnit × Machine :=
  let m := b.leave m unit run.left
  if run.compiled (m.product? b.scratch (Settings.libraryFile unit.names)) then
    match b.load m unit.names with
    | (.ok loaded, m) => (.ok ⟨loaded, run.warnings unit.start, run.elapsed⟩, m)
    | (.error failure, m) => (.error failure, m)
  else (.error (.compilation unit.names.qualified (run.complaints unit.start)), m)

/-- What the end of a call makes of its unit, unless the run never ends. -/
def finish? (b : Bench) (m : Machine) (c : Compilation) :
    Option (Except Failure BuiltUnit × Machine) :=
  let m := m.waitUntil (c.due?.getD 0)
  match c.response with
  | .unstarted fault => some (.error (.toolchain (.unstartable b.toolchain.path fault)), m)
  | .started .endless _ => none
  | .started (.deaf fault) killed => some (.error (.system fault), b.leave m c.unit killed)
  | .started (.ended run) _ => some (b.finishRun m c.unit run)

/-- Compile and load a unit, unless the run never ends. -/
def compile? (b : Bench) (m : Machine) (unit : SourceUnit) :
    Option (Except Failure BuiltUnit × Machine) :=
  let (c, m) := b.call m unit
  b.finish? m c

/-- Remove a unit's library. -/
def unload (b : Bench) (m : Machine) (names : UnitNames) : Machine :=
  m.discard b.scratch (Settings.libraryFile names)

/-- Drop a call: the run is killed, unless it is over. -/
def drop (b : Bench) (m : Machine) (c : Compilation) : Machine :=
  b.leave m c.unit (c.leftAt m.clock)

/-- Put what a run has left in its place, if it ended by itself and is over. -/
def land (b : Bench) (m : Machine) (c : Compilation) : Machine :=
  match c.response with
  | .started (.ended run) _ => if c.isOver m.clock then b.leave m c.unit run.left else m
  | _ => m

end Bench

end Plotter
