import Plotter.Compiler.Call
import Plotter.Files
import Plotter.Notice

/-!
# The machine

The machine is what a host works with: files, the compiler, a record of the attempts to call
it, the scratch directories into which libraries are built, the notices given on the side, and
the time. A scratch directory is known by a number; its path is the machine's choice.

Time goes by when a program is started, which takes a millisecond, and when somebody waits.
-/

namespace Plotter

/-- A scratch directory. -/
structure Scratch where
  number : Nat
  /-- What is in it, by file name. -/
  contents : List (String × Product) := []

/-- A machine. -/
structure Machine where
  files : Files
  /-- The directory in which programs are looked up. -/
  searchPath : String
  tool : Tool
  /-- The path of the scratch directory with a number. -/
  temporary : (number : Nat) → String
  /-- Why no scratch directory can be made, if there is a reason: in a directory of the files, or
  in the system's place for such directories if none is named. -/
  refusal? : Files → (parent : Option String) → Option SystemFault := fun _ _ => none
  /-- The milliseconds that went by. -/
  clock : Nat := 0
  /-- The attempts to call the compiler, latest first. -/
  attempts : List Attempt := []
  /-- How many scratch directories were made. -/
  opened : Nat := 0
  /-- The scratch directories that exist. -/
  scratches : List Scratch := []
  /-- What was noted on the side, latest first. -/
  notices : List Notice := []

namespace Machine

/-- Give a notice. -/
def note (m : Machine) (notice : Notice) : Machine := { m with notices := notice :: m.notices }

/-- Wait until a time, if it is still to come. -/
def waitUntil (m : Machine) (time : Nat) : Machine := { m with clock := max m.clock time }

/-! ### Programs -/

/-- Whether a program can be started; a name alone is looked up. -/
def start (m : Machine) (program : String) : Except SystemFault Unit :=
  if program.toList.contains '\x00' then .error .zeroInArgument
  else if program.toList.contains '/' then m.files.start program
  else m.files.start (m.searchPath ++ "/" ++ program)

/-- The path of a program that is looked up by its name. -/
def find? (m : Machine) (name : String) : Option String :=
  let path := m.searchPath ++ "/" ++ name
  if m.files.offersProgram path then some path else none

/-- Whether a program can be started in a directory, from which a path is followed then that
does not begin with a slash. -/
def startIn (m : Machine) (directory program : String) : Except SystemFault Unit :=
  { m with files := m.files.seenFrom directory }.start program

/-- What becomes of a call. -/
def respond (m : Machine) (program : String) (call : Call) : Response :=
  if call.arguments.any fun a => a.toList.contains '\x00' then .unstarted .zeroInArgument
  else match m.startIn call.directory program with
    | .error fault => .unstarted fault
    | .ok _ => m.tool.respond m.attempts call

/-- Try to call the compiler, and keep a record of it. -/
def call (m : Machine) (program : String) (call : Call) : Response × Machine :=
  let response := m.respond program call
  (response,
    { m with
      clock := m.clock + 1
      attempts := ⟨call, response.isStarted⟩ :: m.attempts })

/-- The calls for which the compiler was started, in order. -/
def calls (m : Machine) : List Call :=
  ((m.attempts.filter (·.started)).map Attempt.call).reverse

/-! ### Scratch directories -/

/-- The scratch directory with a number, if it exists. -/
def scratch? (m : Machine) (number : Nat) : Option Scratch :=
  m.scratches.find? fun s => s.number == number

/-- Make a scratch directory. -/
def openScratch (m : Machine) : Nat × Machine :=
  (m.opened,
    { m with opened := m.opened + 1, scratches := m.scratches ++ [{ number := m.opened }] })

/-- Make a scratch directory in a directory, or in the system's place for such if none is named,
unless the machine refuses to. -/
def openScratchIn (m : Machine) (parent : Option String) : Except SystemFault (Nat × Machine) :=
  match m.refusal? m.files parent with
  | some fault => .error fault
  | none => .ok m.openScratch

theorem openScratchIn_eq_error_iff {m : Machine} {parent : Option String} {fault : SystemFault} :
    m.openScratchIn parent = .error fault ↔ m.refusal? m.files parent = some fault := by
  unfold openScratchIn
  cases m.refusal? m.files parent <;> simp

theorem openScratchIn_eq_ok_iff {m : Machine} {parent : Option String} {made : Nat × Machine} :
    m.openScratchIn parent = .ok made ↔
      m.refusal? m.files parent = none ∧ m.openScratch = made := by
  unfold openScratchIn
  cases m.refusal? m.files parent <;> simp

/-- Remove a scratch directory with what is in it. -/
def closeScratch (m : Machine) (number : Nat) : Machine :=
  { m with scratches := m.scratches.filter fun s => s.number != number }

/-- Change what is in a scratch directory. -/
def changeScratch (m : Machine) (number : Nat)
    (change : List (String × Product) → List (String × Product)) : Machine :=
  { m with
    scratches := m.scratches.map fun s =>
      if s.number = number then { s with contents := change s.contents } else s }

/-- The path of a file in a scratch directory. -/
def scratchPath (m : Machine) (number : Nat) (file : String) : String :=
  m.temporary number ++ "/" ++ file

/-- What is in a scratch directory under a name. -/
def product? (m : Machine) (number : Nat) (file : String) : Option Product :=
  (m.scratch? number).bind fun s => s.contents.lookup file

/-- The files without one. -/
def without (file : String) (contents : List (String × Product)) : List (String × Product) :=
  contents.filter fun entry => entry.1 != file

/-- Put what a call left into a scratch directory. -/
def leave (m : Machine) (number : Nat) (file : String) : Option Product → Machine
  | none => m
  | some p => m.changeScratch number fun contents => without file contents ++ [(file, p)]

/-- Remove a file from a scratch directory. A directory is not removed, and a notice says
so; where nothing is, nothing is to be done. -/
def discard (m : Machine) (number : Nat) (file : String) : Machine :=
  match m.product? number file with
  | none => m
  | some .directory => m.note (.notRemoved (m.scratchPath number file) .isADirectory)
  | some _ => m.changeScratch number (without file)

/-- The names of the files in a scratch directory. -/
def fileNames (m : Machine) (number : Nat) : Option (List String) :=
  (m.scratch? number).map fun s => s.contents.map (·.1)

end Machine

end Plotter
