import Plotter.SystemFault

/-!
# Files

The files that templates are read from and that a directory for libraries is made among: a
tree of directories and files, as a list of places with what is there. A place is given by the
names that lead to it from the top of the tree.

A path is followed name by name, and each name is looked up in a directory; so a slash, a dot
or two dots after the path of a file lead nowhere. A path that does not begin with a slash is
followed from the working directory.
-/

namespace Plotter

/-- What is at a place. -/
inductive Entry
  /-- A file that holds no program, and whether the system may try to run it. -/
  | file (bytes : List UInt8) (executable : Bool)
  | directory
  /-- A file that holds a program. -/
  | program
  deriving Repr, DecidableEq

/-- Whether the system may try to run what is at a place. -/
def Entry.isExecutable : Entry → Bool
  | file _ executable => executable
  | directory => false
  | program => true

/-- A tree of files. -/
structure Files where
  entries : List (List String × Entry) := []
  /-- The place of the working directory. -/
  here : List String := []

namespace Files

/-- The longest name, in bytes. -/
def maxName : Nat := 255

/-- The longest path, in bytes. -/
def maxPath : Nat := 4095

/-! ### Following paths -/

/-- What is at a place; at the top is a directory. -/
def entry? (f : Files) (place : List String) : Option Entry :=
  if place.isEmpty then some .directory else f.entries.lookup place

/-- A text cut at slashes; `name` holds the characters since the last one, latest first. -/
def namesAfter (name : List Char) : List Char → List String
  | [] => [String.ofList name.reverse]
  | '/' :: rest => String.ofList name.reverse :: namesAfter [] rest
  | c :: rest => namesAfter (c :: name) rest

/-- The names in a path, if it is one that the system takes. -/
def names (path : String) : Except SystemFault (List String) :=
  if path.toList.contains '\x00' then .error .zeroInPath
  else if path.isEmpty then .error .notFound
  else if maxPath < path.utf8ByteSize then .error .nameTooLong
  else .ok (namesAfter [] path.toList)

/-- The place from which a path is followed. -/
def origin (f : Files) (path : String) : List String :=
  if path.toList.head? = some '/' then [] else f.here

/-- Follow names from a place. An empty name and a dot stay where they are, two dots lead
out, and out of the top is the top; nothing needs to be at the last name. -/
def walk (f : Files) (place : List String) : List String → Except SystemFault (List String)
  | [] => .ok place
  | name :: rest =>
    match f.entry? place with
    | none => .error .notFound
    | some .directory =>
      if name = "" ∨ name = "." then f.walk place rest
      else if name = ".." then f.walk place.dropLast rest
      else if maxName < name.utf8ByteSize then .error .nameTooLong
      else f.walk (place ++ [name]) rest
    | some _ => .error .notADirectory

/-- The place that a path leads to. -/
def place (f : Files) (path : String) : Except SystemFault (List String) := do
  f.walk (f.origin path) (← names path)

/-- What a path leads to. -/
def find (f : Files) (path : String) : Except SystemFault Entry := do
  match f.entry? (← f.place path) with
  | none => .error .notFound
  | some entry => .ok entry

/-! ### Files -/

/-- The bytes of the file at a path. -/
def read (f : Files) (path : String) : Except SystemFault (List UInt8) := do
  match ← f.find path with
  | .directory => .error .isADirectory
  | .program => .ok []
  | .file bytes _ => .ok bytes

/-- Whether the program at a path can be started. -/
def start (f : Files) (path : String) : Except SystemFault Unit := do
  match ← f.find path with
  | .program => .ok ()
  | .file _ true => .error .notAProgram
  | .file _ false | .directory => .error .permissionDenied

/-- Whether a search for programs stops at a path. -/
def offersProgram (f : Files) (path : String) : Bool :=
  match f.find path with
  | .ok entry => entry.isExecutable
  | .error _ => false

/-- The entries with one at a place, instead of what was there. -/
def put (f : Files) (place : List String) (entry : Entry) : Files :=
  { f with entries := (place, entry) :: f.entries.filter fun e => e.1 != place }

/-- Write a file at a path. A file that could be run before can be run after. -/
def write (f : Files) (path : String) (bytes : List UInt8) : Except SystemFault Files := do
  let place ← f.place path
  match f.entry? place with
  | some .directory => .error .isADirectory
  | some entry => .ok (f.put place (.file bytes entry.isExecutable))
  | none => .ok (f.put place (.file bytes false))

/-- Remove the file at a path. Directories are not removed. -/
def remove (f : Files) (path : String) : Except SystemFault Files := do
  let place ← f.place path
  match f.entry? place with
  | none => .error .notFound
  | some .directory => .error .isADirectory
  | some _ => .ok { f with entries := f.entries.filter fun e => e.1 != place }

/-! ### Directories -/

/-- Make a directory where names lead from a place. Empty names at the end do not count. -/
def makeAt (f : Files) (origin names : List String) : Except SystemFault Files := do
  let place ← f.walk origin (names.reverse.dropWhile (· == "")).reverse
  match f.entry? place with
  | some _ => .error .alreadyExists
  | none => .ok (f.put place .directory)

/-- Make a directory at a path. -/
def makeDirectory (f : Files) (path : String) : Except SystemFault Files := do
  f.makeAt (f.origin path) (← names path)

/-- Make a directory where names lead from a place. One that is there already will do. -/
def ensureAt (f : Files) (origin names : List String) : Except SystemFault Files :=
  match f.makeAt origin names with
  | .ok f => .ok f
  | .error fault =>
    match f.walk origin names with
    | .ok place => if f.entry? place = some .directory then .ok f else .error fault
    | .error _ => .error fault

/-- Make a directory where names lead from a place, and if something on the way to it is
missing, make the directory that the names `outer` lead to before, latest name first. -/
def ensureAll (f : Files) (origin names : List String) : (outer : List String) →
    Except SystemFault Files
  | [] => f.ensureAt origin names
  | name :: outer =>
    match f.ensureAt origin names with
    | .ok f => .ok f
    | .error fault =>
      if fault = .notFound then do
        let f ← f.ensureAll origin (name :: outer).reverse outer
        f.ensureAt origin names
      else .error fault

/-- Make a directory at a path, and those that lead to it. The empty path asks for none. -/
def makePath (f : Files) (path : String) : Except SystemFault Files :=
  if path.isEmpty then .ok f
  else do
    let names ← names path
    let outer := (names.reverse.filter fun name => name != "" && name != ".").drop 1
    f.ensureAll (f.origin path) names outer

/-- The files as they are seen from a directory, which is there. -/
def seenFrom (f : Files) (directory : String) : Files :=
  let f := (f.makePath directory).toOption.getD f
  { f with here := (f.place directory).toOption.getD f.here }

/-- Write a file at a path below a directory, and make the directories that lead to it. -/
def install (f : Files) (directory path : String) (bytes : List UInt8) :
    Except SystemFault Files := do
  let names := directory :: namesAfter [] path.toList
  let f ← f.makePath ("/".intercalate names.dropLast)
  f.write ("/".intercalate names) bytes

end Files

end Plotter
