import Plotter.Compiler.Toolchain
import Plotter.SourceUnit

/-!
# Compiler settings

How units are compiled, and the arguments with which the compiler is called for one.
-/

namespace Plotter

/-- How units are compiled. -/
structure Settings where
  /-- Where the scratch directory is made, if not in the system's place for such. -/
  scratchParent : Option String := none
  /-- The compiler, if it is not to be looked up. -/
  compiler : Option String := none
  /-- Whether to use the quick code generator where it is to be had. -/
  cranelift : Bool := false
  /-- The level of optimization. -/
  optimization : UInt8 := 0
  /-- The edition of the language. -/
  edition : String := "2021"
  /-- Further flags for the compiler. -/
  flags : List String := []
  deriving Repr, DecidableEq

namespace Settings

/-- Quick compilation. -/
def development : Settings := { cranelift := true }

/-- Quick functions. -/
def optimized : Settings := { optimization := 3 }

/-- The highest level of optimization. -/
def maxOptimization : UInt8 := 3

/-- The file name of a unit's library. -/
def libraryFile (names : UnitNames) : String := "lib" ++ names.crate ++ ".so"

/-- The arguments for a unit whose library is to be at a path. -/
def arguments (s : Settings) (t : Toolchain) (names : UnitNames) (path : String) : List String :=
  ["-", "--crate-type=cdylib", "--crate-name", names.crate, "--edition=" ++ s.edition,
    "--error-format=json", "-o", path, "-Copt-level=" ++ toString s.optimization.toNat] ++
    (if s.cranelift then t.craneliftFlags else []) ++ s.flags

end Settings

end Plotter
