import Plotter.Failure
import Plotter.Machine.Basic
import Plotter.Text.Quoted

/-!
# Loading libraries

A library that a call left is loaded only if it offers the whole interface. A library that is
not accepted is removed. From a loaded unit instances are made, if its constructor makes any.
-/

namespace Plotter

/-- A library that was accepted. -/
structure LoadedUnit where
  /-- The unit's qualified name. -/
  name : String
  /-- Where the library is. -/
  path : String
  library : Library

namespace LoadedUnit

/-- Load what is left at a path. A zero character ends a path, so none may stand further in
front. -/
def load (name path : String) (left : Option Product) : Except Failure LoadedUnit :=
  if path.toList.dropLast.contains '\x00' then .error (.loading .zeroInPath)
  else match left with
    | some (.library l) =>
      match l.shortfall? with
      | some shortfall => .error (.capability name shortfall)
      | none => .ok ⟨name, path, l⟩
    | _ => .error (.loading .refused)

/-- Make an instance. -/
def instantiate (u : LoadedUnit) : Except Failure Instance :=
  if u.library.constructs then .ok { unit := u.name, library := u.library }
  else .error (.instantiation u.name "constructor returned null")

/-- A loaded unit for the eyes of a developer. -/
def describe (u : LoadedUnit) : String :=
  "LoadedUnit \x7b qualified_name: " ++ Text.quoted u.name ++ ", dylib_path: " ++
    Text.quoted u.path ++ " \x7d"

end LoadedUnit

/-- An instance for the eyes of a developer. -/
def Instance.describe (i : Instance) : String :=
  "UnitInstance \x7b unit: " ++ Text.quoted i.unit ++ " \x7d"

end Plotter
