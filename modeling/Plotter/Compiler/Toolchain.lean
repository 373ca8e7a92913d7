import Plotter.Failure
import Plotter.Machine.Basic
import Plotter.Text.Blank

/-!
# The toolchain

A toolchain is a compiler that told its version. Whether it has the quick code generator is
found out by asking it to use it.
-/

namespace Plotter

/-- A compiler that can be used. -/
structure Toolchain where
  path : String
  version : String
  cranelift : Bool
  deriving Repr, DecidableEq

namespace Toolchain

/-- The name under which the compiler is looked up. -/
def program : String := "rustc"

/-- The flag that asks for the quick code generator. -/
def craneliftFlag : String := "-Zcodegen-backend=cranelift"

/-- The flags for the quick code generator, where it is to be had. -/
def craneliftFlags (t : Toolchain) : List String := if t.cranelift then [craneliftFlag] else []

/-- The compiler at a path. -/
def atPath (m : Machine) (path : String) : Except Failure Toolchain :=
  match m.start path with
  | .error fault => .error (.toolchain (.unstartable path fault))
  | .ok _ =>
    let (status, output) := m.tool.version
    if status.success then
      .ok ⟨path, String.ofList (Text.trim (Text.Utf8.decodeLenient output)), m.tool.cranelift⟩
    else .error (.toolchain (.versionless path status))

/-- The compiler that is looked up by its name. -/
def search (m : Machine) : Except Failure Toolchain :=
  match m.find? program with
  | some path => atPath m path
  | none => .error (.toolchain .notFound)

/-- The compiler at a path if one is given, and otherwise the one that is looked up. -/
def detect (m : Machine) : Option String → Except Failure Toolchain
  | some path => atPath m path
  | none => search m

end Toolchain

end Plotter
