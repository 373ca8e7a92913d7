import Mathlib
import Plotter.Diagnostic.Record
import Plotter.Diagnostic.Report
import Plotter.Proofs.Json.Printing

/-!
# Which values show a report

A value shows a report if it is an object with the report's fields: its text, its level, the objects
of its places, and so on. The fields may be in any order, and others may be among them. What a
report has none of may be absent, and a code or a rendering may be null.

`Report.Shows` says this without a word on how values are decoded. That the decoder agrees, as long
as the value does not nest too deep, is `Report.ofValueWithin?_of_shows`. Every report is shown by
some value: the one with the report's fields alone, in the order in which they are declared
(`Report.document`).
-/

namespace Plotter

/-! ### Nesting -/

namespace Json.Value

mutual

/-- How deep the arrays and objects of a value nest. -/
def depth : Value → Nat
  | .array items => depthItems items + 1
  | .object fields => depthFields fields + 1
  | _ => 0

/-- How deep the arrays and objects of items nest. -/
def depthItems : List Value → Nat
  | [] => 0
  | v :: vs => max (depth v) (depthItems vs)

/-- How deep the arrays and objects in fields nest. -/
def depthFields : List (Option String × Value) → Nat
  | [] => 0
  | (_, v) :: fs => max (depth v) (depthFields fs)

end

theorem depth_lt_of_mem_items {v : Value} {items : List Value} (h : v ∈ items) :
    v.depth < (array items).depth := by
  rw [depth, Nat.lt_succ_iff]
  induction items with
  | nil => exact absurd h List.not_mem_nil
  | cons w items ih =>
    rw [depthItems]
    rcases List.mem_cons.1 h with rfl | later
    · exact Nat.le_max_left ..
    · exact Nat.le_trans (ih later) (Nat.le_max_right ..)

theorem depth_lt_of_mem_fields {key : Option String} {v : Value}
    {fields : List (Option String × Value)} (h : (key, v) ∈ fields) :
    v.depth < (object fields).depth := by
  rw [depth, Nat.lt_succ_iff]
  induction fields with
  | nil => exact absurd h List.not_mem_nil
  | cons field fields ih =>
    rw [depthFields]
    rcases List.mem_cons.1 h with rfl | later
    · exact Nat.le_max_left ..
    · exact Nat.le_trans (ih later) (Nat.le_max_right ..)

end Json.Value

namespace Report

open Json (Value Document)

/-! ### Fields -/

/-- Every key has a text, and each of the names is the key of one field at most. -/
structure Keyed (names : List String) (fields : List (Option String × Value)) : Prop where
  texts : ∀ field ∈ fields, field.1.isSome = true
  once : ∀ name ∈ names, (fields.filter fun field => field.1 == some name).length ≤ 1

/-- What the field with a name is, if there is one. -/
def Field (fields : List (Option String × Value)) (name : String) : Option Value → Prop
  | some v => (some name, v) ∈ fields
  | none => ∀ v, (some name, v) ∉ fields

/-- A field shows what may be missing: it is absent or null then. -/
inductive ShowsOption {α : Type} (shows : α → Value → Prop) : Option Value → Option α → Prop
  | absent : ShowsOption shows none none
  | null : ShowsOption shows (some .null) none
  | there {a : α} {v : Value} (shown : shows a v) : ShowsOption shows (some v) (some a)

/-- A field shows a list: an array of its items, or nothing if there are none. -/
inductive ShowsList {α : Type} (shows : α → Value → Prop) : Option Value → List α → Prop
  | absent : ShowsList shows none []
  | there {as : List α} {vs : List Value} (shown : List.Forall₂ shows as vs) :
    ShowsList shows (some (.array vs)) as

/-! ### Reports -/

/-- A value shows a text. -/
def ShowsText (text : String) (v : Value) : Prop := v = .string (some text)

/-- A number of 64 bits as a value. -/
def wordValue (n : UInt64) : Value := .number (Nat.toDigits 10 n.toNat)

/-- A value shows the text of a code. -/
inductive ShowsCode (code : String) : Value → Prop
  | object {fields : List (Option String × Value)} (keyed : Keyed ["code"] fields)
    (filed : Field fields "code" (some (.string (some code)))) : ShowsCode code (.object fields)

/-- A value shows a place. -/
inductive ShowsSpan (span : Span) : Value → Prop
  | object {fields : List (Option String × Value)}
    (keyed : Keyed ["line_start", "column_start", "is_primary"] fields)
    (line : Field fields "line_start" (some (wordValue span.line)))
    (column : Field fields "column_start" (some (wordValue span.column)))
    (primary : Field fields "is_primary" (some (.bool span.primary))) :
    ShowsSpan span (.object fields)

/-- A value shows a report and those under it. -/
inductive Shows : Report → Value → Prop
  | object {message level : String} {code rendered : Option String} {spans : List Span}
    {children : List Report} {fields : List (Option String × Value)}
    {code' spans' children' rendered' : Option Value} (keyed : Keyed fieldNames fields)
    (said : Field fields "message" (some (.string (some message))))
    (coded : Field fields "code" code') (filed : ShowsOption ShowsCode code' code)
    (levelled : Field fields "level" (some (.string (some level))))
    (listed : Field fields "spans" spans') (placed : ShowsList ShowsSpan spans' spans)
    (nested : Field fields "children" children') (below : ShowsList Shows children' children)
    (drawn : Field fields "rendered" rendered')
    (rendering : ShowsOption ShowsText rendered' rendered) :
    Shows (.mk message code level spans children rendered) (.object fields)

/-! ### Decoding -/

section

variable {names : List String} {fields : List (Option String × Value)} {name : String}

theorem Keyed.keysSound (h : Keyed names fields) : keysSound names fields = true := by
  simpa [Report.keysSound] using ⟨fun key v => h.texts (key, v), h.once⟩

theorem Keyed.record?_eq (h : Keyed names fields) :
    record? names (.object fields) = some (names.map fun name => lookup name fields) := by
  rw [record?, if_pos h.keysSound]

/-- The field with a name is found by it. -/
theorem Keyed.lookup_eq {v : Option Value} (h : Keyed names fields) (known : name ∈ names)
    (field : Field fields name v) : lookup name fields = v := by
  cases v with
  | none =>
    rw [lookup, Option.map_eq_none_iff, List.find?_eq_none]
    rintro ⟨key, v⟩ member same
    obtain rfl : key = some name := beq_iff_eq.1 same
    exact field v member
  | some v =>
    have filtered : (some name, v) ∈ fields.filter fun field => field.1 == some name :=
      List.mem_filter.2 ⟨field, beq_self_eq_true _⟩
    have alone : (fields.filter fun field => field.1 == some name) = [(some name, v)] := by
      have few := h.once name known
      match found : fields.filter fun field => field.1 == some name with
      | [] => simp [found] at filtered
      | [only] => simpa [found, eq_comm] using filtered
      | _ :: _ :: _ => simp [found] at few
    rw [lookup, ← List.head?_filter, alone]
    rfl

end

/-- A value fits into the room that it is given. -/
def Fits (room : Nat) (v : Option Value) : Prop := ∀ w, v = some w → w.depth ≤ room

/-- The fields of an object have one level less to nest. -/
theorem Field.fits {fields : List (Option String × Value)} {name : String} {v : Option Value}
    {room : Nat} (h : Field fields name v) (fits : (Value.object fields).depth ≤ room + 1) :
    Fits room v := by
  rintro w rfl
  exact Nat.le_of_lt_succ (Nat.lt_of_lt_of_le (Json.Value.depth_lt_of_mem_fields h) fits)

/-- What may be missing is decoded as its values are. -/
theorem ShowsOption.optional_eq {α : Type} {shows : α → Value → Prop} {read : Value → Option α}
    {v : Option Value} {a : Option α} {room : Nat} (h : ShowsOption shows v a) (fits : Fits room v)
    (reads : ∀ {a v}, shows a v → v.depth ≤ room → v ≠ .null ∧ read v = some a) :
    optional read v = some a := by
  cases h with
  | absent => rfl
  | null => rfl
  | there shown =>
    obtain ⟨present, read⟩ := reads shown (fits _ rfl)
    simp [optional, read]

theorem mapM_eq_some {α : Type} {read : Value → Option α} {as : List α} {vs : List Value}
    (h : List.Forall₂ (fun a v => read v = some a) as vs) : vs.mapM read = some as := by
  induction h with
  | nil => rfl
  | cons first rest ih => simp [List.mapM_cons, first, ih]

/-- A list is decoded as its items are. -/
theorem ShowsList.listed_eq {α : Type} {shows : α → Value → Prop}
    {read : (room : Nat) → Value → Option α} {v : Option Value} {as : List α} {room : Nat}
    (h : ShowsList shows v as) (fits : Fits room v)
    (reads : ∀ {vs room}, List.Forall₂ shows as vs → (∀ v ∈ vs, v.depth ≤ room) →
      List.Forall₂ (fun a v => read room v = some a) as vs) : listed room read v = some as := by
  cases h with
  | absent => rfl
  | @there as vs shown =>
    have inside := fits _ rfl
    cases room with
    | zero => simp [Value.depth] at inside
    | succ room =>
      refine mapM_eq_some (reads shown fun v member => ?_)
      have below := Json.Value.depth_lt_of_mem_items member
      omega

theorem ShowsText.text? {text : String} {v : Value} (h : ShowsText text v) :
    v ≠ .null ∧ v.text? = some text := by
  cases h
  exact ⟨by simp, rfl⟩

theorem word?_wordValue (n : UInt64) : (wordValue n).word? = some n := by
  have digits : (Nat.toDigits 10 n.toNat).all Char.isDigit = true :=
    List.all_eq_true.2 fun _ => Nat.isDigit_of_mem_toDigits (by decide) (by decide)
  have number : Json.decimal (Nat.toDigits 10 n.toNat) = n.toNat :=
    Nat.ofDigitChars_toDigits (by decide) (by decide)
  simp [wordValue, Value.word?, digits, number, n.toNat_lt]

theorem codeOfValue?_of_shows {code : String} {v : Value} {room : Nat} (h : ShowsCode code v)
    (fits : v.depth ≤ room) : codeOfValue? room v = some code := by
  cases h with
  | object keyed filed =>
    cases room with
    | zero => simp [Value.depth] at fits
    | succ room =>
      simp [codeOfValue?, keyed.record?_eq, keyed.lookup_eq (by simp) filed, required, Value.text?]

theorem ShowsCode.ne_null {code : String} {v : Value} (h : ShowsCode code v) : v ≠ .null := by
  cases h
  simp

theorem spanOfValue?_of_shows {span : Span} {v : Value} {room : Nat} (h : ShowsSpan span v)
    (fits : v.depth ≤ room) : spanOfValue? room v = some span := by
  cases h with
  | object keyed line column primary =>
    cases room with
    | zero => simp [Value.depth] at fits
    | succ room =>
      simp [spanOfValue?, keyed.record?_eq, keyed.lookup_eq (by simp) line,
        keyed.lookup_eq (by simp) column, keyed.lookup_eq (by simp) primary, required,
        word?_wordValue, Value.bool?]

theorem spanOfValue?_of_forall₂ {spans : List Span} {vs : List Value} {room : Nat}
    (h : List.Forall₂ ShowsSpan spans vs) (fits : ∀ v ∈ vs, v.depth ≤ room) :
    List.Forall₂ (fun span v => spanOfValue? room v = some span) spans vs := by
  induction h with
  | nil => exact .nil
  | cons first rest ih =>
    exact .cons (spanOfValue?_of_shows first (fits _ (by simp)))
      (ih fun v member => fits v (by simp [member]))

/-- The reports under a report are decoded as a list. -/
theorem ofValueWithin?_of_record {v : Value} {room : Nat}
    {message code level spans children rendered : Option Value}
    (h : record? fieldNames v = some [message, code, level, spans, children, rendered]) :
    ofValueWithin? (room + 1) v = do
      let message ← required Value.text? message
      let code ← optional (codeOfValue? room) code
      let level ← required Value.text? level
      let spans ← listed room spanOfValue? spans
      let children ← listed room ofValueWithin? children
      let rendered ← optional Value.text? rendered
      return .mk message code level spans children rendered := by
  rw [ofValueWithin?, h]
  cases children with
  | none => rfl
  | some w =>
    cases w with
    | array items => cases room <;> rfl
    | _ => rfl

mutual

/-- **A value that shows a report is decoded as that report**, if there is room for it. -/
theorem ofValueWithin?_of_shows (r : Report) {v : Value} {room : Nat} (h : r.Shows v)
    (fits : v.depth ≤ room) : ofValueWithin? room v = some r := by
  cases r with
  | mk message code level spans children rendered =>
    cases h with
    | object keyed said coded filed levelled listed placed nested below drawn rendering =>
      cases room with
      | zero => simp [Value.depth] at fits
      | succ room =>
        have code := filed.optional_eq (coded.fits fits) fun shown fits =>
          ⟨shown.ne_null, codeOfValue?_of_shows shown fits⟩
        have spans := placed.listed_eq (listed.fits fits) spanOfValue?_of_forall₂
        have children := below.listed_eq (nested.fits fits) (ofValueWithin?_of_forall₂ children)
        have rendered := rendering.optional_eq (drawn.fits fits) fun shown _ => shown.text?
        have recorded := keyed.record?_eq
        simp only [fieldNames, List.map_cons, List.map_nil, keyed.lookup_eq (by decide) said,
          keyed.lookup_eq (by decide) coded, keyed.lookup_eq (by decide) levelled,
          keyed.lookup_eq (by decide) listed, keyed.lookup_eq (by decide) nested,
          keyed.lookup_eq (by decide) drawn] at recorded
        rw [ofValueWithin?_of_record recorded, code, spans, children, rendered]
        rfl

theorem ofValueWithin?_of_forall₂ (rs : List Report) {vs : List Value} {room : Nat}
    (h : List.Forall₂ Shows rs vs) (fits : ∀ v ∈ vs, v.depth ≤ room) :
    List.Forall₂ (fun r v => ofValueWithin? room v = some r) rs vs := by
  match rs, vs, h with
  | [], [], .nil => exact .nil
  | r :: rs, v :: vs, .cons first rest =>
    exact .cons (ofValueWithin?_of_shows r first (fits v (by simp)))
      (ofValueWithin?_of_forall₂ rs rest fun v member => fits v (by simp [member]))

end

/-! ### The plain object of a report -/

/-- A place as an object. -/
def spanDocument (span : Span) : Document :=
  .object [("line_start", .ofWord span.line), ("column_start", .ofWord span.column),
    ("is_primary", .bool span.primary)]

/-- A code as an object. -/
def codeDocument (code : String) : Document := .object [("code", .string code)]

mutual

/-- A report as an object of its six fields, absent ones as null. -/
def document : Report → Document
  | .mk message code level spans children rendered =>
    .object [("message", .string message), ("code", .ofOption codeDocument code),
      ("level", .string level), ("spans", .array (spans.map spanDocument)),
      ("children", .array (documents children)), ("rendered", .ofOption .string rendered)]

/-- Reports as objects. -/
def documents : List Report → List Document
  | [] => []
  | r :: rs => document r :: documents rs

end

theorem value_ofWord (n : UInt64) : (Document.ofWord n).value = wordValue n := by
  rw [Document.ofWord, Document.value, Nat.toString_eq_repr, Nat.toList_repr, wordValue]

theorem sound_ofWord (n : UInt64) : (Document.ofWord n).Sound :=
  ⟨_, _, _, _, Json.isNumber_toDigits n.toNat, by simp⟩

theorem showsCode_codeDocument (code : String) : ShowsCode code (codeDocument code).value :=
  .object ⟨by simp, by simp⟩ (by simp [Field])

theorem showsSpan_spanDocument (span : Span) : ShowsSpan span (spanDocument span).value :=
  .object ⟨by simp, by simp⟩ (by simp [Field, value_ofWord]) (by simp [Field, value_ofWord])
    (by simp [Field])

theorem showsSpan_spanDocuments (spans : List Span) :
    List.Forall₂ ShowsSpan spans (Document.values (spans.map spanDocument)) := by
  induction spans with
  | nil => exact .nil
  | cons span spans ih => exact .cons (showsSpan_spanDocument span) ih

mutual

/-- **Every report is shown by its plain object.** -/
theorem shows_document (r : Report) : r.Shows r.document.value := by
  cases r with
  | mk message code level spans children rendered =>
    have filed : ShowsOption ShowsCode (some (Document.ofOption codeDocument code).value) code := by
      cases code with
      | none => exact .null
      | some code => exact .there (showsCode_codeDocument code)
    have rendering :
        ShowsOption ShowsText (some (Document.ofOption .string rendered).value) rendered := by
      cases rendered with
      | none => exact .null
      | some rendered => exact .there rfl
    exact .object ⟨by simp, by simp [fieldNames]⟩ (by simp [Field]) (by simp [Field]) filed
      (by simp [Field]) (by simp [Field]) (.there (showsSpan_spanDocuments spans))
      (by simp [Field]) (.there (shows_documents children)) (by simp [Field]) rendering

theorem shows_documents (rs : List Report) :
    List.Forall₂ Shows rs (Document.values (documents rs)) := by
  cases rs with
  | nil => exact .nil
  | cons r rs => exact .cons (shows_document r) (shows_documents rs)

end

theorem sound_spanDocuments (spans : List Span) :
    Document.SoundItems (spans.map spanDocument) := by
  induction spans with
  | nil => trivial
  | cons span spans ih =>
    exact ⟨⟨sound_ofWord span.line, sound_ofWord span.column, trivial, trivial⟩, ih⟩

mutual

theorem sound_document (r : Report) : r.document.Sound := by
  cases r with
  | mk message code level spans children rendered =>
    have filed : (Document.ofOption codeDocument code).Sound := by
      cases code with
      | none => trivial
      | some code => exact ⟨trivial, trivial⟩
    have rendering : (Document.ofOption .string rendered).Sound := by
      cases rendered <;> trivial
    exact ⟨trivial, filed, trivial, sound_spanDocuments spans, sound_documents children, rendering,
      trivial⟩

theorem sound_documents (rs : List Report) : Document.SoundItems (documents rs) := by
  cases rs with
  | nil => trivial
  | cons r rs => exact ⟨sound_document r, sound_documents rs⟩

end

end Report

end Plotter
