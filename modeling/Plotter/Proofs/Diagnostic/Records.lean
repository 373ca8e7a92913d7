import Mathlib
import Plotter.Proofs.CommandLine.Documents

/-!
# Diagnostics can be read back from JSON

Other programs get diagnostics as a JSON array of records. Here is a reader for it: it looks up the
fields of a record by their names and takes each for what it is, whatever order they are in and
whatever else is among them. It knows nothing of how the records were written. What it reads from the
text of a list is the list, so nothing of a diagnostic is lost on the way, and no two lists have one
text.

## What is proved

* `Diagnostic.ofValue?_document`: the record of a diagnostic is read as the diagnostic.
* `Diagnostic.ofText?_of_layout`: a list is read from every layout of its array.
* `Diagnostic.records_exact`: so a list can be read back from each text that is written for it, and
  from the report on an evaluation.
-/

namespace Plotter

open Json (Document Layout Value)
open Report (lookup optional record? required)

/-! ### Reading records -/

/-- The severity that a value stands for, by its word. -/
def Severity.ofValue? (v : Value) : Option Severity :=
  v.text?.bind fun word => [error, warning, note, help].find? fun s => s.word == word

/-- The location that a value is. -/
def Location.ofValue? (v : Value) : Option Location :=
  match record? ["line", "column"] v with
  | some [line, column] => do return ⟨← required Value.word? line, ← required Value.word? column⟩
  | _ => none

namespace Diagnostic

/-- The names of a record's fields. -/
def fieldNames : List String :=
  ["level", "code", "message", "location", "expression_column", "rendered"]

/-- The diagnostic that a value is. -/
def ofValue? (v : Value) : Option Diagnostic :=
  match record? fieldNames v with
  | some [level, code, message, location, column, rendered] => do
    return {
      severity := ← required Severity.ofValue? level
      code := ← optional Value.text? code
      message := ← required Value.text? message
      location := ← optional Location.ofValue? location
      expressionColumn := ← optional Value.word? column
      rendered := ← optional Value.text? rendered }
  | _ => none

/-- The diagnostics that a value is a list of. -/
def listOfValue? : Value → Option (List Diagnostic)
  | .array items => items.mapM ofValue?
  | _ => none

/-- The diagnostics that a text is a list of. -/
def ofText? (text : String) : Option (List Diagnostic) :=
  (Json.read? text.toList).bind listOfValue?

end Diagnostic

/-! ### Records that were written -/

theorem Severity.ofValue?_word (s : Severity) : ofValue? (.string (some s.word)) = some s := by
  cases s <;> decide +kernel

theorem Location.ofValue?_document (l : Location) : ofValue? l.document.value = some l := by
  simp [ofValue?, document, record?, Report.keysSound, lookup, required, Report.value_ofWord,
    Report.word?_wordValue]

/-- What may be absent is read as it was written, unless it is written as null. -/
theorem Report.optional_ofOption {α : Type} {write : α → Document} {read : Value → Option α}
    (reads : ∀ a, (write a).value ≠ .null ∧ read (write a).value = some a) (a : Option α) :
    optional read (some (Document.ofOption write a).value) = some a := by
  cases a with
  | none => rfl
  | some a =>
    obtain ⟨there, read⟩ := reads a
    simp [Document.ofOption, optional, read]

namespace Diagnostic

variable (d : Diagnostic) (ds : List Diagnostic)

/-- The fields of a record are found by their names. -/
theorem record?_document : record? fieldNames d.document.value =
    some [some (.string (some d.severity.word)), some (Document.ofOption .string d.code).value,
      some (.string (some d.message)), some (Document.ofOption Location.document d.location).value,
      some (Document.ofOption .ofWord d.expressionColumn).value,
      some (Document.ofOption .string d.rendered).value] := by
  simp [document, record?, fieldNames, Report.keysSound, lookup]

/-- **The record of a diagnostic is read as the diagnostic.** -/
theorem ofValue?_document : ofValue? d.document.value = some d := by
  have text (t : Option String) : optional Value.text? (some (Document.ofOption .string t).value) =
      some t := Report.optional_ofOption (fun _ => ⟨by simp, rfl⟩) t
  have location := Report.optional_ofOption
    (fun l => ⟨by simp [Location.document], Location.ofValue?_document l⟩) d.location
  have column : optional Value.word? (some (Document.ofOption .ofWord d.expressionColumn).value) =
      some d.expressionColumn :=
    Report.optional_ofOption (fun n => ⟨by simp [Document.ofWord], by
      rw [Report.value_ofWord, Report.word?_wordValue]⟩) d.expressionColumn
  simp only [ofValue?, d.record?_document, required, Severity.ofValue?_word, text, location, column,
    Value.text?]
  rfl

theorem forall₂_documents :
    List.Forall₂ (fun d v => ofValue? v = some d) ds (Document.values (ds.map document)) := by
  induction ds with
  | nil => exact .nil
  | cons d ds ih => exact .cons d.ofValue?_document ih

/-- The array of a list is read as the list. -/
theorem listOfValue?_documentAll : listOfValue? (documentAll ds).value = some ds :=
  Report.mapM_eq_some (forall₂_documents ds)

variable {ds}

/-- **A list is read from every layout of its array.** -/
theorem ofText?_of_layout {text : String}
    (laid : Layout (.padded (documentAll ds).value) text.toList) : ofText? text = some ds := by
  rw [ofText?, Json.read?_of_wording laid.wording, Option.bind_some, listOfValue?_documentAll]

/-- The texts that are written for a list: on one line, or over several. -/
def Written (ds : List Diagnostic) (text : String) : Prop :=
  text = (documentAll ds).compactText ∨ text = (documentAll ds).prettyText

/-- What is written for a list is laid out as its array, without a character before or after it. -/
theorem Written.layout {text : String} (h : Written ds text) :
    Layout (.value (documentAll ds).value) text.toList := by
  rcases h with rfl | rfl
  · rw [Document.compactText, String.toList_ofList]
    exact Document.layout_compact _ (sound_documentAll ds)
  · rw [Document.prettyText, String.toList_ofList]
    exact Document.layout_pretty 0 _ (sound_documentAll ds)

theorem Written.ofText? {text : String} (h : Written ds text) : ofText? text = some ds :=
  ofText?_of_layout h.layout.bare

/-- A text is one JSON array, in which each diagnostic has one item in its place. -/
structure Lists (ds : List Diagnostic) (text : String) (items : List Value) : Prop where
  layout : Layout (.value (.array items)) text.toList
  read : Json.read? text.toList = some (.array items)
  each : List.Forall₂ (fun d v => ofValue? v = some d) ds items

theorem Written.lists {text : String} (h : Written ds text) :
    ∃ items, Lists ds text items :=
  ⟨_, h.layout, Json.read?_of_wording h.layout.bare.wording, forall₂_documents ds⟩

/-- The diagnostics in a field of an object. -/
def inField? (name : String) : Value → Option (List Diagnostic)
  | .object fields => (lookup name fields).bind listOfValue?
  | _ => none

/-- The report on an evaluation gives its diagnostics and its warnings back. -/
theorem inField?_report (e : Evaluation) (samples : Option (List Sample)) :
    inField? "diagnostics" (CommandLine.report e samples).value = some e.diagnostics ∧
      inField? "warnings" (CommandLine.report e samples).value = some e.warnings := by
  cases samples <;>
    simp [inField?, CommandLine.report, CommandLine.headFields, CommandLine.sampleFields,
      CommandLine.tailFields, lookup, listOfValue?_documentAll]

/-- **Diagnostics can be read back.** For all lists of diagnostics: a text that is written for a list
is one JSON array, in which each diagnostic has its item, and is read as that list; so a text is
written for one list only. What is printed as the report on an evaluation is one JSON value, which
gives the diagnostics and the warnings back. -/
theorem records_exact :
    (∀ ds text, Written ds text → (∃ items, Lists ds text items) ∧ ofText? text = some ds) ∧
    (∀ ds ds' text, Written ds text → Written ds' text → ds = ds') ∧
    ∀ (e : Evaluation) (samples : Option (List Sample)), ∃ v,
      Json.read? ((CommandLine.report e samples).prettyText ++ "\n").toList = some v ∧
        inField? "diagnostics" v = some e.diagnostics ∧
          inField? "warnings" v = some e.warnings := by
  refine ⟨fun ds text h => ⟨h.lists, h.ofText?⟩, fun ds ds' text h h' => ?_, fun e samples => ?_⟩
  · exact Option.some.inj (h.ofText?.symm.trans h'.ofText?)
  · exact ⟨_, Document.read?_prettyText _ (CommandLine.sound_report e samples),
      inField?_report e samples⟩

end Diagnostic

end Plotter
