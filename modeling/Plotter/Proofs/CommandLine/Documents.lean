import Plotter.CommandLine.Report
import Plotter.Proofs.Decimal.Rendering
import Plotter.Proofs.Diagnostic.Shown
import Plotter.Proofs.Json.Indentation
import Plotter.Proofs.Session.Twins

/-!
# Reports as JSON

A report on an evaluation is one object, whatever texts are in it, be the samples numbers or not, and
whether the compilation failed or not. Reports on evaluations that are the same but for the digits of
chance and for times have the same fields, with values that are the same but for them.

## What is proved

* `CommandLine.read?_report`: what is written is read as the report and nothing else.
* `CommandLine.report_redrawn`: the fields of two reports, without the samples.
-/

namespace Plotter

open Json (Document Value Piece)

variable {P : UInt64 → UInt64 → Prop}

/-! ### Documents -/

namespace Json.Document

theorem soundItems_map {α : Type} (f : α → Document) (sound : ∀ a, (f a).Sound) (items : List α) :
    SoundItems (items.map f) := by
  induction items with
  | nil => trivial
  | cons item items ih => exact ⟨sound item, ih⟩

theorem soundFields_append {fields more : List (String × Document)} (h : SoundFields fields)
    (h' : SoundFields more) : SoundFields (fields ++ more) := by
  induction fields with
  | nil => exact h'
  | cons field fields ih => exact ⟨h.1, ih h.2⟩

theorem sound_ofOption {α : Type} (f : α → Document) (sound : ∀ a, (f a).Sound) (a : Option α) :
    (ofOption f a).Sound := by
  cases a with
  | none => trivial
  | some a => exact sound a

theorem sound_optional (text : Option String) : (ofOption .string text).Sound :=
  sound_ofOption .string (fun _ => trivial) text

theorem sound_nat (n : Nat) : (Document.number (toString n)).Sound :=
  ⟨_, _, _, _, isNumber_toDigits n, by simp⟩

theorem fieldValues_append (fields more : List (String × Document)) :
    fieldValues (fields ++ more) = fieldValues fields ++ fieldValues more := by
  induction fields with
  | nil => rfl
  | cons field fields ih =>
    rw [List.cons_append, fieldValues, fieldValues, ih, List.cons_append]

/-- A number of 64 bits is itself. -/
theorem redrawn_ofWord (n : UInt64) : (ofWord n).value.Redrawn P (ofWord n).value := .number _

theorem redrawn_string {text text' : String} (h : RedrawnText P text text') :
    (Document.string text).value.Redrawn P (Document.string text').value := .string (.some h)

theorem redrawn_optional {text text' : Option String} (h : Option.Rel (RedrawnText P) text text') :
    (ofOption .string text).value.Redrawn P (ofOption .string text').value := by
  cases h with
  | none => exact .null
  | some h => exact redrawn_string h

theorem redrawn_array {α : Type} {R : α → α → Prop} (f : α → Document)
    (each : ∀ a a', R a a' → (f a).value.Redrawn P (f a').value) {items items' : List α}
    (h : List.Forall₂ R items items') :
    (Document.array (items.map f)).value.Redrawn P (Document.array (items'.map f)).value := by
  refine .array ?_
  induction h with
  | nil => exact .noItems
  | cons first _ ih => exact .item (each _ _ first) ih

end Json.Document

open Json.Document

/-! ### Diagnostics and samples -/

theorem Location.sound_document (l : Location) : l.document.Sound :=
  ⟨Report.sound_ofWord l.line, Report.sound_ofWord l.column, trivial⟩

theorem Location.redrawn_document (l : Location) :
    l.document.value.Redrawn P l.document.value :=
  .object (.field (.some (.refl _)) (redrawn_ofWord _)
    (.field (.some (.refl _)) (redrawn_ofWord _) .noFields))

namespace Diagnostic

theorem sound_document (d : Diagnostic) : d.document.Sound :=
  ⟨trivial, sound_optional _, trivial, sound_ofOption _ Location.sound_document _,
    sound_ofOption _ Report.sound_ofWord _, sound_optional _, trivial⟩

/-- **Diagnostics that are the same but for the digits are written as objects that are.** -/
theorem Redrawn.document {d d' : Diagnostic} (h : d.Redrawn P d') :
    d.document.value.Redrawn P d'.document.value := by
  have level : (Document.string d.severity.word).value.Redrawn P
      (Document.string d'.severity.word).value := by
    rw [h.severity]
    exact redrawn_string (.refl _)
  have location : (ofOption Location.document d.location).value.Redrawn P
      (ofOption Location.document d'.location).value := by
    rw [h.location]
    cases d'.location with
    | none => exact .null
    | some location => exact location.redrawn_document
  have column : (ofOption ofWord d.expressionColumn).value.Redrawn P
      (ofOption ofWord d'.expressionColumn).value := by
    rw [h.expressionColumn]
    cases d'.expressionColumn with
    | none => exact .null
    | some column => exact redrawn_ofWord column
  have key (name : String) : Option.Rel (RedrawnText P) (some name) (some name) := .some (.refl _)
  exact .object (.field (key _) level (.field (key _) (redrawn_optional h.code)
    (.field (key _) (redrawn_string h.message) (.field (key _) location (.field (key _) column
      (.field (key _) (redrawn_optional h.rendered) .noFields))))))

theorem sound_documentAll (ds : List Diagnostic) : (documentAll ds).Sound :=
  soundItems_map document sound_document ds

theorem redrawn_documentAll {ds ds' : List Diagnostic}
    (h : List.Forall₂ (Diagnostic.Redrawn P) ds ds') :
    (documentAll ds).value.Redrawn P (documentAll ds').value :=
  redrawn_array document (fun _ _ => Redrawn.document) h

end Diagnostic

/-- Samples are written as an array of objects with an x and a y. -/
theorem Sample.value_documentAll (samples : List Sample) :
    (documentAll samples).value = .array (samples.map fun sample =>
      .object [(some "x", (ofFloat sample.x).value), (some "y", (ofFloat sample.y).value)]) := by
  have items : values (samples.map document) = samples.map fun sample =>
      Value.object [(some "x", (ofFloat sample.x).value), (some "y", (ofFloat sample.y).value)] := by
    induction samples with
    | nil => rfl
    | cons sample samples ih =>
      rw [List.map_cons, values, ih]
      rfl
  rw [documentAll, value, items]

theorem Sample.sound_documentAll (samples : List Sample) : (documentAll samples).Sound :=
  soundItems_map document (fun s => ⟨sound_ofFloat s.x, sound_ofFloat s.y, trivial⟩) samples

/-! ### Evaluations -/

namespace Evaluation.Redrawn

variable {e e' : Evaluation}

theorem expression (h : e.Redrawn P e') : e.expression = e'.expression := by
  cases h
  rfl

theorem isSuccess (h : e.Redrawn P e') : e.isSuccess = e'.isSuccess := by
  obtain ⟨_, verdicts⟩ := h
  cases verdicts <;> rfl

theorem unit? (h : e.Redrawn P e') :
    Option.Rel (RedrawnText P) e.handle.unit? e'.handle.unit? := by
  obtain ⟨_, verdicts⟩ := h
  cases verdicts with
  | made _ _ _ _ named _ => exact .some named
  | failed _ => exact .none

theorem diagnostics (h : e.Redrawn P e') :
    List.Forall₂ (Diagnostic.Redrawn P) e.diagnostics e'.diagnostics := by
  obtain ⟨_, verdicts⟩ := h
  cases verdicts with
  | made _ _ _ _ _ _ => exact .nil
  | failed failures => exact failures.explanation

theorem warnings (h : e.Redrawn P e') :
    List.Forall₂ (Diagnostic.Redrawn P) e.warnings e'.warnings := by
  obtain ⟨_, verdicts⟩ := h
  cases verdicts with
  | made _ _ _ _ _ remarks => exact remarks
  | failed _ => exact .nil

theorem isSome_elapsed? (h : e.Redrawn P e') : e.elapsed?.isSome = e'.elapsed?.isSome := by
  obtain ⟨_, verdicts⟩ := h
  cases verdicts <;> rfl

end Evaluation.Redrawn

/-! ### Reports -/

namespace CommandLine

variable (e : Evaluation)

theorem sound_report (samples : Option (List Sample)) : (report e samples).Sound := by
  have head : SoundFields (headFields e) := ⟨trivial, sound_optional _, trivial, trivial⟩
  have tail : SoundFields (tailFields e) :=
    ⟨Diagnostic.sound_documentAll _, Diagnostic.sound_documentAll _, sound_ofOption _ sound_nat _,
      trivial⟩
  have middle : SoundFields (sampleFields samples) := by
    cases samples with
    | none => trivial
    | some samples => exact ⟨Sample.sound_documentAll samples, trivial⟩
  exact soundFields_append (soundFields_append head middle) tail

/-- **What is written is read as the report** and nothing else: one object with these fields. -/
theorem read?_report (samples : Option (List Sample)) :
    Json.read? ((report e samples).prettyText ++ "\n").toList =
      some (.object (fieldValues (headFields e) ++ fieldValues (sampleFields samples) ++
        fieldValues (tailFields e))) := by
  rw [read?_prettyText _ (sound_report e samples)]
  simp only [report, value, fieldValues_append]

/-- Fields of two reports that are the same but for the digits of chance and for the time that the
compilation took. -/
inductive FieldAlike (P : UInt64 → UInt64 → Prop) : (field field' : Option String × Value) → Prop
  | same (key : String) {v v' : Value} (h : v.Redrawn P v') : FieldAlike P (some key, v) (some key, v')
  | time (n n' : Nat) :
      FieldAlike P (some "compile_time_ms", (Document.number (toString n)).value)
        (some "compile_time_ms", (Document.number (toString n')).value)

variable {e e' : Evaluation}

/-- **The fields of two reports**, without the samples. -/
theorem report_redrawn (h : e.Redrawn P e') :
    List.Forall₂ (FieldAlike P) (fieldValues (headFields e)) (fieldValues (headFields e')) ∧
      List.Forall₂ (FieldAlike P) (fieldValues (tailFields e)) (fieldValues (tailFields e')) := by
  have expression : (Document.string e.expression).value.Redrawn P
      (Document.string e'.expression).value := by
    rw [h.expression]
    exact redrawn_string (.refl _)
  have success : (Document.bool e.isSuccess).value.Redrawn P (Document.bool e'.isSuccess).value := by
    rw [h.isSuccess]
    exact .bool _
  have elapsed : FieldAlike P
      (some "compile_time_ms", (ofOption (fun n : Nat => .number (toString n)) e.elapsed?).value)
      (some "compile_time_ms", (ofOption (fun n : Nat => .number (toString n)) e'.elapsed?).value) := by
    have known := h.isSome_elapsed?
    generalize e.elapsed? = n at known
    generalize e'.elapsed? = n' at known
    cases n with
    | none =>
      cases n' with
      | none => exact .same _ .null
      | some n' => cases known
    | some n =>
      cases n' with
      | none => cases known
      | some n' => exact .time n n'
  exact ⟨.cons (.same _ expression)
      (.cons (.same _ (redrawn_optional h.unit?)) (.cons (.same _ success) .nil)),
    .cons (.same _ (Diagnostic.redrawn_documentAll h.diagnostics))
      (.cons (.same _ (Diagnostic.redrawn_documentAll h.warnings)) (.cons elapsed .nil))⟩

end CommandLine

end Plotter
