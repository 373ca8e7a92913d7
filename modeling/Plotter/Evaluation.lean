import Plotter.Failure

/-!
# Evaluations

What the user gets for an expression: a handle on an instance of a compiled unit, or a
failure. A handle can be called either way; the null handle is zero everywhere.
-/

namespace Plotter

/-- A callable function. -/
inductive Handle
  /-- Zero everywhere. -/
  | null
  /-- An instance, by its number, of a unit with a qualified name. -/
  | compiled (number : Nat) (unit : String)
  deriving Repr, DecidableEq

namespace Handle

/-- The value of the null handle. -/
def nullValue : Float := 0

/-- Whether it is the null handle. -/
def isNull : Handle → Bool
  | null => true
  | compiled _ _ => false

/-- The instance behind a handle. -/
def number? : Handle → Option Nat
  | null => none
  | compiled number _ => some number

/-- The qualified name of the unit behind a handle. -/
def unit? : Handle → Option String
  | null => none
  | compiled _ unit => some unit

/-- Whether two handles are on one instance. The null handle is on none. -/
def sameInstance : Handle → Handle → Bool
  | compiled a _, compiled b _ => a == b
  | _, _ => false

end Handle

/-- How a request ended. -/
inductive Verdict
  /-- An instance was made, by a compiler that gave warnings and took some milliseconds. -/
  | made (number : Nat) (unit : String) (warnings : List Diagnostic) (elapsed : Nat)
  /-- It failed. -/
  | failed (failure : Failure)

/-- The answer to a request. -/
structure Evaluation where
  expression : String
  verdict : Verdict

namespace Evaluation

/-- A request that failed. -/
def failed (expression : String) (failure : Failure) : Evaluation := ⟨expression, .failed failure⟩

/-- The failure, if it failed. -/
def failure? (e : Evaluation) : Option Failure :=
  match e.verdict with
  | .made .. => none
  | .failed failure => some failure

/-- The function. -/
def handle (e : Evaluation) : Handle :=
  match e.verdict with
  | .made number unit _ _ => .compiled number unit
  | .failed _ => .null

/-- Whether an instance was made. -/
def isSuccess (e : Evaluation) : Bool := e.failure?.isNone

/-- Why it failed; nothing if it did not. -/
def diagnostics (e : Evaluation) : List Diagnostic :=
  match e.verdict with
  | .made .. => []
  | .failed failure => failure.explanation

/-- What the compiler remarked on a unit that it compiled. -/
def warnings (e : Evaluation) : List Diagnostic :=
  match e.verdict with
  | .made _ _ warnings _ => warnings
  | .failed _ => []

/-- The milliseconds that the compilation took, if it succeeded. -/
def elapsed? (e : Evaluation) : Option Nat :=
  match e.verdict with
  | .made _ _ _ elapsed => some elapsed
  | .failed _ => none

/-- The diagnostics as text. -/
def diagnosticText (e : Evaluation) : String := Diagnostic.renderAll e.diagnostics

end Evaluation

end Plotter
