import Plotter.Json.Reader

/-!
# The compiler's reports

The compiler writes one report a line, as JSON. A report has a text, a level, the
places it is about, perhaps a code and a rendering, and reports of its own under it.
`Report.ofValue?` says which JSON values are reports:

* an object with the fields of a report, in any order and none of them twice, among
  fields of other names, which are passed over; or an array of exactly the fields;
* a code and a rendering may be null or absent, the places and the reports below may be
  absent;
* a number is a row of digits that 64 bits hold, a string has a text;
* the objects and arrays that make up the report nest at most `nesting` deep.
-/

namespace Plotter

/-- A place that a report is about, by where it begins. -/
structure Span where
  line : UInt64
  column : UInt64
  /-- Whether the report is about this place above all. -/
  primary : Bool
  deriving Repr, DecidableEq

/-- A report, with the reports under it. -/
inductive Report
  | mk (message : String) (code : Option String) (level : String) (spans : List Span)
      (children : List Report) (rendered : Option String)
  deriving Repr, Inhabited

namespace Report

open Json (Value)

/-- How deep the objects and arrays of a report may nest. -/
def nesting : Nat := 127

/-! ### Records -/

/-- The value of a field, where the key occurs. -/
def lookup (name : String) (fields : List (Option String × Value)) : Option Value :=
  (fields.find? fun field => field.1 == some name).map (·.2)

/-- Whether every key has a text, and no key of a list of names occurs twice. -/
def keysSound (names : List String) (fields : List (Option String × Value)) : Bool :=
  fields.all (fun field => field.1.isSome) &&
    names.all fun name => (fields.filter fun field => field.1 == some name).length ≤ 1

/-- The fields of a record by their names, in the order of the names: an object's by
their keys, an array's by their places. -/
def record? (names : List String) : Value → Option (List (Option Value))
  | .array items => if items.length = names.length then some (items.map some) else none
  | .object fields =>
    if keysSound names fields then some (names.map fun name => lookup name fields) else none
  | _ => none

/-- A field that must be there. -/
def required {α : Type} (read : Value → Option α) : Option Value → Option α
  | some v => read v
  | none => none

/-- A field that may be absent or null. -/
def optional {α : Type} (read : Value → Option α) : Option Value → Option (Option α)
  | none | some .null => some none
  | some v => (read v).map some

/-- A list that may be absent, with `room` for the nesting of its array and items. -/
def listed {α : Type} (room : Nat) (read : (room : Nat) → Value → Option α) :
    Option Value → Option (List α)
  | none => some []
  | some (.array items) =>
    match room with
    | 0 => none
    | room + 1 => items.mapM (read room)
  | some _ => none

/-! ### Reports -/

/-- The text of a code, with room for `room` levels. -/
def codeOfValue? : (room : Nat) → Value → Option String
  | 0, _ => none
  | _ + 1, v =>
    match record? ["code"] v with
    | some [code] => required Value.text? code
    | _ => none

/-- A place, with room for `room` levels. -/
def spanOfValue? : (room : Nat) → Value → Option Span
  | 0, _ => none
  | _ + 1, v =>
    match record? ["line_start", "column_start", "is_primary"] v with
    | some [line, column, primary] => do
      return ⟨← required Value.word? line, ← required Value.word? column,
        ← required Value.bool? primary⟩
    | _ => none

/-- The names of a report's fields, in the order in which an array has them. -/
def fieldNames : List String := ["message", "code", "level", "spans", "children", "rendered"]

/-- The report that a value is, with room for `room` levels of nesting. -/
def ofValueWithin? : (room : Nat) → Value → Option Report
  | 0, _ => none
  | room + 1, v =>
    match record? fieldNames v with
    | some [message, code, level, spans, children, rendered] => do
      let message ← required Value.text? message
      let code ← optional (codeOfValue? room) code
      let level ← required Value.text? level
      let spans ← listed room spanOfValue? spans
      let children ← match children with
        | none => some []
        | some (.array items) =>
          match room with
          | 0 => none
          | room + 1 => items.mapM (ofValueWithin? room)
        | some _ => none
      let rendered ← optional Value.text? rendered
      return .mk message code level spans children rendered
    | _ => none

/-- The report that a value is. -/
def ofValue? (v : Value) : Option Report := ofValueWithin? nesting v

/-- The report that a line is. -/
def ofLine? (line : List Char) : Option Report := (Json.read? line).bind ofValue?

end Report

end Plotter
