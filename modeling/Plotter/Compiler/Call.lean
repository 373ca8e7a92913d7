import Plotter.Library
import Plotter.SystemFault

/-!
# Calls of the compiler

The compiler is an outside program. What the host gives it is a call: a directory to run in,
arguments, and a source on its standard input. What the host sees of it is a response: whether
it started and took the source, how it ended, what it wrote on its standard error, and what it
left at the place where the library was asked for. Nothing else about it is known, so it may
answer each call in any way.
-/

namespace Plotter

/-- What is left at the place where a library was asked for. -/
inductive Product
  /-- A regular file that is no library. -/
  | unloadable
  /-- A directory. It cannot be loaded, and not be removed as a file. -/
  | directory
  /-- A library. -/
  | library (l : Library)

/-- Whether a product is a regular file. -/
def Product.isRegular : Product → Bool
  | .directory => false
  | _ => true

/-- What the compiler is called with. -/
structure Call where
  /-- The directory in which it is to run. -/
  directory : String
  arguments : List String
  source : String
  deriving Repr, DecidableEq

/-- A run that came to its end. -/
structure Run where
  status : ExitStatus
  /-- What it wrote on its standard error. -/
  report : List UInt8
  /-- What it left. -/
  left : Option Product
  /-- The full milliseconds that it took. -/
  elapsed : Nat

/-- How a run goes on once it was started. -/
inductive Course
  /-- It never ends by itself. -/
  | endless
  /-- It does not take the source; it is killed then. -/
  | deaf (fault : SystemFault)
  /-- It takes the source and ends. -/
  | ended (run : Run)

/-- The full milliseconds that a run takes, if it comes to an end. -/
def Course.elapsed? : Course → Option Nat
  | .endless => none
  | .deaf _ => some 0
  | .ended run => some run.elapsed

/-- What becomes of a call. -/
inductive Response
  /-- It could not be started. -/
  | unstarted (fault : SystemFault)
  /-- It was started, and leaves something if it is killed before its end. -/
  | started (course : Course) (killed : Option Product)

/-- Whether the compiler was started. -/
def Response.isStarted : Response → Bool
  | .unstarted _ => false
  | .started _ _ => true

/-- An attempt to call the compiler. -/
structure Attempt where
  call : Call
  /-- Whether the compiler was started. -/
  started : Bool
  deriving Repr, DecidableEq

/-- A compiler: what it says of itself, and how it responds to calls. -/
structure Tool where
  /-- How it ends when it is asked for its version, and what it then writes. -/
  version : ExitStatus × List UInt8
  /-- Whether it has the quick code generator. -/
  cranelift : Bool
  /-- How it responds to a call after the attempts made before, latest first. -/
  respond : (earlier : List Attempt) → Call → Response

end Plotter
