import Plotter.Machine.Basic
import Plotter.Text.Replace

/-!
# Scripted compilers

A scripted compiler stands in for a real one: it gives prepared replies. Each call gets the
first reply that fits its source and was not given before, or may be given again. The
libraries that it leaves hold quotients of polynomials instead of compiled code.
-/

namespace Plotter

/-! ### Libraries -/

/-- What a scripted library computes. -/
inductive ScriptedFunction
  /-- The quotient alone. -/
  | quotient
  /-- The square root of the quotient. -/
  | squareRoot
  /-- How often the instance was called, this time included. -/
  | count
  deriving Repr, DecidableEq

/-- A scripted library. -/
structure ScriptedLibrary where
  version : UInt32 := interfaceVersion
  /-- The name of a symbol that it does not export. -/
  missing : Option String := none
  /-- Whether its constructor makes an instance. -/
  constructs : Bool := true
  /-- The coefficients of the numerator, the constant first. -/
  numerator : List Float := []
  /-- The coefficients of the denominator; none stand for one. -/
  denominator : List Float := []
  function : ScriptedFunction := .quotient

/-- The value of a polynomial, worked out from its highest coefficient. -/
def polynomial (coefficients : List Float) (x : Float) : Float :=
  match coefficients.reverse with
  | [] => 0
  | highest :: rest => rest.foldl (fun value c => value * x + c) highest

/-- The value of a scripted library. -/
def ScriptedLibrary.value (l : ScriptedLibrary) (earlier : List Float) (x : Float) : Float :=
  let p := polynomial l.numerator x
  let quotient := if l.denominator.isEmpty then p else p / polynomial l.denominator x
  match l.function with
  | .quotient => quotient
  | .squareRoot => quotient.sqrt
  | .count => Float.ofNat (earlier.length + 1)

/-- A scripted library as a library. -/
def ScriptedLibrary.library (l : ScriptedLibrary) : Library where
  exports symbol := l.missing != some symbol.name
  version := l.version
  constructs := l.constructs
  value := l.value

/-! ### Compilers -/

/-- A prepared reply. -/
structure Reply where
  /-- What a source must hold for the reply to fit it. -/
  needle : Option String := none
  /-- Whether it may be given again. -/
  repeats : Bool := false
  course : Course

/-- Whether a reply fits a source. -/
def Reply.fits (r : Reply) (source : String) : Bool :=
  match r.needle with
  | some needle => Text.occurs needle.toList source.toList
  | none => true

/-- The replies of a scripted compiler. -/
structure Script where
  version : ExitStatus × List UInt8 := (.exited 0, "rustc 9.9.9 (fake 2030-01-01)\n".toUTF8.toList)
  cranelift : Bool := false
  replies : List Reply := []

namespace Script

/-- How a run goes on for which no reply is left. -/
def exhausted : Course :=
  .ended
    { status := .exited 101, report := "no reply left\n".toUTF8.toList, left := none, elapsed := 0 }

/-- The reply to a source, and the replies that are left after it. -/
def choose (source : String) : List Reply → Option (Reply × List Reply)
  | [] => none
  | r :: rest =>
    if r.fits source then some (r, if r.repeats then r :: rest else rest)
    else (choose source rest).map fun (chosen, left) => (chosen, r :: left)

/-- The replies that are left after attempts, latest first. -/
def leftAfter (replies : List Reply) : List Attempt → List Reply
  | [] => replies
  | a :: earlier =>
    let left := leftAfter replies earlier
    if a.started then
      match choose a.call.source left with
      | some (_, left) => left
      | none => left
    else left

/-- Whether a library can be put where a call asks for it: its file's name must be one that
a directory takes. -/
def hasRoom (call : Call) : Bool :=
  match (call.arguments.dropWhile (· != "--crate-name"))[1]? with
  | some crate =>
    !crate.toList.contains '/' && ("lib" ++ crate ++ ".so").utf8ByteSize ≤ Files.maxName
  | none => true

/-- A run that leaves nothing. -/
def leavingNothing : Course → Course
  | .ended run => .ended { run with left := none }
  | course => course

/-- How the run for a call goes on after earlier attempts. -/
def course (s : Script) (earlier : List Attempt) (call : Call) : Course :=
  match choose call.source (leftAfter s.replies earlier) with
  | some (r, _) => if hasRoom call then r.course else leavingNothing r.course
  | none => exhausted

/-- The compiler that follows the script. It leaves nothing when it is killed. -/
def tool (s : Script) : Tool where
  version := s.version
  cranelift := s.cranelift
  respond earlier call := .started (s.course earlier call) none

end Script

end Plotter
