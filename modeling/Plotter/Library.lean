/-!
# Libraries

What the host sees of a compiled library: which of the four symbols it exports, the
version that it reports, whether its constructor makes an instance, and the values of an
instance. An instance may keep state, so its value at an argument may depend on the
arguments that it was given before.
-/

namespace Plotter

/-- The symbols through which a library offers a function. -/
inductive Symbol
  /-- Reports the version of the interface. -/
  | version
  /-- Makes an instance. -/
  | construct
  /-- Evaluates an instance. -/
  | eval
  /-- Disposes of an instance. -/
  | destroy
  deriving Repr, DecidableEq

/-- The name under which a symbol is exported. -/
def Symbol.name : Symbol → String
  | .version => "fxplot_abi_version"
  | .construct => "fxplot_construct"
  | .eval => "fxplot_eval"
  | .destroy => "fxplot_destroy"

/-- A library that can be loaded. -/
structure Library where
  /-- The symbols that it exports. -/
  exports : Symbol → Bool
  /-- The version that it reports. -/
  version : UInt32
  /-- Whether the constructor makes an instance. -/
  constructs : Bool
  /-- The value at an argument, after the arguments given before, latest first. -/
  value : (earlier : List Float) → (x : Float) → Float

/-- The version of the interface that the host knows. -/
def interfaceVersion : UInt32 := 1

/-- Why a library is not accepted. -/
inductive Shortfall
  /-- A symbol is missing. -/
  | missing (symbol : Symbol)
  /-- It reports another version. -/
  | version (found : UInt32)
  /-- A reason told in words. -/
  | described (reason : String)
  deriving Repr, DecidableEq

/-- The words for a shortfall. -/
def Shortfall.words : Shortfall → String
  | missing symbol => "missing symbol `" ++ symbol.name ++ "`: dlsym failed"
  | version found =>
    "unit reports ABI version " ++ toString found.toNat ++ ", expected " ++
      toString interfaceVersion.toNat
  | described reason => reason

/-- The first shortfall of a library, if it has any: the version is asked for before the
other symbols are looked up. -/
def Library.shortfall? (l : Library) : Option Shortfall :=
  if !l.exports .version then some (.missing .version)
  else if l.version ≠ interfaceVersion then some (.version l.version)
  else ([.construct, .eval, .destroy].find? fun s => !l.exports s).map .missing

/-- One instance made by a library: the unit that it belongs to, and the arguments that it
was given so far, latest first. -/
structure Instance where
  unit : String
  library : Library
  earlier : List Float := []

/-- The value of an instance at an argument, and the instance after it. -/
def Instance.call (i : Instance) (x : Float) : Float × Instance :=
  (i.library.value i.earlier x, { i with earlier := x :: i.earlier })

/-- The values of an instance at several arguments, in order, after the values `before`, which
stand latest first. -/
def Instance.callAfter (before : List Float) : Instance → List Float → List Float × Instance
  | i, [] => (before.reverse, i)
  | i, x :: xs => callAfter ((i.call x).1 :: before) (i.call x).2 xs

/-- The values of an instance at several arguments, in order, and the instance after them. -/
def Instance.callAll (i : Instance) (xs : List Float) : List Float × Instance :=
  Instance.callAfter [] i xs

end Plotter
