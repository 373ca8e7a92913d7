import Plotter.Text.Hex

/-!
# Names for generated units

Every unit is compiled under two names of its own: a package and, inside it, a unit. The
serial number in the unit's name makes it differ from every other name of the same source;
the chance digits at the end of both keep apart the names of different sources.
-/

namespace Plotter

/-! ### Identifiers -/

/-- A letter of the alphabet or an underscore. -/
def isIdentifierStart (c : Char) : Bool := c.isAlpha || c == '_'

/-- A letter of the alphabet, a decimal digit or an underscore. -/
def isIdentifierRest (c : Char) : Bool := c.isAlphanum || c == '_'

/-- Whether a text can name something in the generated source. -/
def isIdentifier : List Char → Bool
  | [] => false
  | c :: rest => isIdentifierStart c && rest.all isIdentifierRest

/-- What every package name begins with: an identifier. -/
structure PackageBase where
  text : String
  valid : isIdentifier text.toList = true

/-- The base that is used unless another is asked for. -/
def PackageBase.default : PackageBase := ⟨"fxplot_runtime", by decide +kernel⟩

/-- A text as a base, if it is an identifier. -/
def PackageBase.ofText? (text : String) : Option PackageBase :=
  if h : isIdentifier text.toList = true then some ⟨text, h⟩ else none

/-! ### Names -/

/-- The names of one unit. -/
structure UnitNames where
  package : String
  unit : String
  deriving Repr, DecidableEq

/-- Both names, joined by a dot. -/
def UnitNames.qualified (n : UnitNames) : String := n.package ++ "." ++ n.unit

/-- The unit's name in lower case, which names what is compiled. -/
def UnitNames.crate (n : UnitNames) : String := String.ofList (n.unit.toList.map Char.toLower)

/-- What every unit name begins with. -/
def unitPrefix : String := "Fx_"

/-- An underscore and sixteen digits of chance. -/
def chanceSuffix (draw : UInt64) : String := String.ofList ('_' :: Text.hexDigits 16 draw.toNat)

/-- The chance in one pair of names. -/
structure Draw where
  package : UInt64
  unit : UInt64
  deriving Repr, DecidableEq

/-- Where names come from: a base, the chance of each pair, and the number of pairs handed
out so far. -/
structure NameSource where
  base : PackageBase
  chance : UInt64 → Draw
  issued : UInt64 := 0

namespace NameSource

/-- The names for a serial number. -/
def namesAt (s : NameSource) (serial : UInt64) : UnitNames where
  package := s.base.text ++ chanceSuffix (s.chance serial).package
  unit := unitPrefix ++ toString serial.toNat ++ chanceSuffix (s.chance serial).unit

/-- The next pair of names, and the source after it. -/
def next (s : NameSource) : UnitNames × NameSource :=
  (s.namesAt s.issued, { s with issued := s.issued + 1 })

/-- The next pairs of names, latest first, before those in `taken`, and the source after
them. -/
def takeOnto (taken : List UnitNames) : (count : Nat) → NameSource → List UnitNames × NameSource
  | 0, s => (taken, s)
  | count + 1, s => takeOnto (s.next.1 :: taken) count s.next.2

end NameSource

end Plotter
