import Plotter.Evaluation
import Plotter.Host.Basic

/-!
# The workshop

Several hosts may work side by side on one machine with one source of names. The workshop
holds them, and the instances that they made. An instance is known by a number, and no
number is given twice.
-/

namespace Plotter

/-- An instance that is there, and the library file that goes with it. -/
structure Resident where
  number : Nat
  /-- The number of the scratch directory in which the library is. -/
  scratch : Nat
  /-- The library's file name. -/
  file : String
  body : Instance

/-- Hosts and their instances. -/
structure Workshop where
  machine : Machine
  names : NameSource
  hosts : List Host
  /-- The instances that are there, oldest first. -/
  residents : List Resident := []
  /-- How many instances were made. -/
  made : Nat := 0

namespace Workshop

/-- Give a notice. -/
def note (w : Workshop) (notice : Notice) : Workshop :=
  { w with machine := w.machine.note notice }

/-- Give the notice for a request that failed, if there is one. -/
def noteFailure (w : Workshop) (expression : String) (failure : Failure) : Workshop :=
  match Notice.ofFailure? expression failure with
  | some notice => w.note notice
  | none => w

/-! ### Calling instances -/

/-- The instance with a number, if it is there. -/
def resident? (w : Workshop) (number : Nat) : Option Resident :=
  w.residents.find? fun r => r.number == number

/-- The value of a handle at an argument. Only the instance behind the handle changes. -/
def call (w : Workshop) (handle : Handle) (x : Float) : Float × Workshop :=
  match handle with
  | .null => (Handle.nullValue, w)
  | .compiled number _ =>
    match w.resident? number with
    | none => (Handle.nullValue, w)
    | some r =>
      ((r.body.call x).1,
        { w with
          residents := w.residents.map fun r' =>
            if r'.number = number then { r' with body := (r.body.call x).2 } else r' })

/-- The values of a handle at several arguments, in order, after the values `before`, which
stand latest first. -/
def callAfter (handle : Handle) (before : List Float) :
    Workshop → List Float → List Float × Workshop
  | w, [] => (before.reverse, w)
  | w, x :: xs =>
    let (y, w) := w.call handle x
    callAfter handle (y :: before) w xs

/-- The values of a handle at several arguments, in order. -/
def callAll (w : Workshop) (handle : Handle) (xs : List Float) : List Float × Workshop :=
  callAfter handle [] w xs

theorem callAfter_eq (handle : Handle) (before : List Float) (w : Workshop) (xs : List Float) :
    callAfter handle before w xs =
      (before.reverse ++ (w.callAll handle xs).1, (w.callAll handle xs).2) := by
  induction xs generalizing before w with
  | nil => simp [callAfter, callAll]
  | cons x xs ih =>
    simp only [callAfter, callAll]
    rw [ih, ih [(w.call handle x).1]]
    simp

@[simp] theorem callAll_nil (w : Workshop) (handle : Handle) : w.callAll handle [] = ([], w) := rfl

/-- Calling at several arguments is calling at the first and then at the others. -/
theorem callAll_cons (w : Workshop) (handle : Handle) (x : Float) (xs : List Float) :
    w.callAll handle (x :: xs) =
      ((w.call handle x).1 :: ((w.call handle x).2.callAll handle xs).1,
        ((w.call handle x).2.callAll handle xs).2) := by
  rw [callAll]
  exact callAfter_eq handle [(w.call handle x).1] (w.call handle x).2 xs

@[simp] theorem length_callAll (w : Workshop) (handle : Handle) (xs : List Float) :
    (w.callAll handle xs).1.length = xs.length := by
  induction xs generalizing w with
  | nil => rfl
  | cons x xs ih => simp [callAll_cons, ih]

/-! ### Making instances -/

/-- Lodge an instance of a unit that was built on a bench. -/
def lodge (w : Workshop) (bench : Bench) (names : UnitNames) (body : Instance) : Nat × Workshop :=
  (w.made,
    { w with
      residents := w.residents ++ [⟨w.made, bench.scratch, Settings.libraryFile names, body⟩]
      made := w.made + 1 })

/-- Make an instance of a unit that was built; if none comes of it, its library goes. -/
def instantiate (w : Workshop) (bench : Bench) (names : UnitNames) (built : BuiltUnit) :
    Except Failure Verdict × Workshop :=
  match built.loaded.instantiate with
  | .ok body =>
    let (number, w) := w.lodge bench names body
    (.ok (.made number built.loaded.name built.warnings built.elapsed), w)
  | .error failure =>
    (.error failure,
      { w with machine := bench.unload w.machine names })

/-! ### Letting go -/

/-- Let go of the instances that are not in use; their libraries go with them. -/
def release (w : Workshop) (inUse : Nat → Bool) : Workshop :=
  let (kept, gone) := w.residents.partition fun r => inUse r.number
  { w with
    residents := kept
    machine := gone.foldl (fun m r => m.discard r.scratch r.file) w.machine }

/-- Whether an instance has its library in a scratch directory. -/
def occupies (w : Workshop) (scratch : Nat) : Bool :=
  w.residents.any fun r => r.scratch == scratch

end Workshop

end Plotter
