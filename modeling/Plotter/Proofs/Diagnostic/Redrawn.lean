import Mathlib
import Plotter.Proofs.Diagnostic.Changes
import Plotter.Proofs.Json.Redrawn

/-!
# Diagnostics but for the digits of chance

What the compiler writes may name the unit that it was given, so two runs of it may differ in the
digits of chance. They are told of in diagnostics that differ in the same digits: the digits decide
neither whether a line is a report nor how severe it is, where it points or what is under it.

The names of the fields of a report and the words for a severity are shorter than the digits, so they
are the same in both texts (`Redrawn.eq_of_short`).

## What is proved

* `Report.ofValueWithin?_redrawn`: values that are the same but for the digits are reports that are.
* `Diagnostic.ofOutput_redrawn`: so are the diagnostics of all that the compiler writes.
-/

namespace Plotter

variable {P : UInt64 → UInt64 → Prop}

namespace Report

open Json (Value Piece)

/-- Reports that are the same but for the digits of chance. -/
inductive Redrawn (P : UInt64 → UInt64 → Prop) : (r r' : Report) → Prop
  | mk {message message' level level' : String} {code code' rendered rendered' : Option String}
      {spans : List Span} {children children' : List Report} (said : RedrawnText P message message')
      (coded : Option.Rel (RedrawnText P) code code') (levelled : RedrawnText P level level')
      (below : List.Forall₂ (Redrawn P) children children')
      (drawn : Option.Rel (RedrawnText P) rendered rendered') :
      Redrawn P (.mk message code level spans children rendered)
        (.mk message' code' level' spans children' rendered')

/-! ### Fields -/

variable {v v' : Value} {names : List String} {filed filed' : String → Option Value} {name : String}

/-- A name that is shorter than the digits is the same in both. -/
theorem key_redrawn {key key' : Option String} (short : name.length < 17)
    (h : Option.Rel (RedrawnText P) key key') : key = some name ↔ key' = some name := by
  have same {P : UInt64 → UInt64 → Prop} {text text' : String} (h : RedrawnText P text text')
      (own : text = name) : text' = name := by
    subst own
    exact (String.toList_injective (h.eq_of_short (by rwa [String.length_toList]))).symm
  cases h with
  | none => simp
  | some texts =>
    rw [Option.some.injEq, Option.some.injEq]
    exact ⟨same texts, same texts.symm⟩

theorem isSome_redrawn {α β : Type} {R : α → β → Prop} {x : Option α} {y : Option β}
    (h : Option.Rel R x y) : x.isSome = y.isSome := by
  cases h <;> rfl

/-- What stands under a name that is shorter than the digits. -/
theorem under_redrawn {fields fields' : List (Option String × Value)} (short : name.length < 17)
    (h : Piece.Redrawn P (.fields fields) (.fields fields')) :
    List.Forall₂ (Value.Redrawn P) (under name fields) (under name fields') := by
  induction fields generalizing fields' with
  | nil =>
    cases h
    exact .nil
  | cons field fields ih =>
    cases h with
    | field keys h rest =>
      have own := key_redrawn short keys
      simp only [under, List.filter_cons, beq_iff_eq, own]
      split
      · exact .cons h (ih rest)
      · exact ih rest

theorem texts_redrawn {fields fields' : List (Option String × Value)}
    (h : Piece.Redrawn P (.fields fields) (.fields fields'))
    (texts : ∀ field ∈ fields, field.1.isSome = true) : ∀ field ∈ fields', field.1.isSome = true := by
  induction fields generalizing fields' with
  | nil =>
    cases h
    exact fun _ member => absurd member List.not_mem_nil
  | cons field fields ih =>
    cases h with
    | field keys h rest =>
      rw [List.forall_mem_cons] at texts ⊢
      exact ⟨(isSome_redrawn keys).symm.trans texts.1, ih rest texts.2⟩

theorem items_redrawn {items items' : List Value}
    (h : Piece.Redrawn P (.items items) (.items items')) :
    List.Forall₂ (Value.Redrawn P) items items' := by
  induction items generalizing items' with
  | nil =>
    cases h
    exact .nil
  | cons item items ih =>
    cases h with
    | item h rest => exact .cons h (ih rest)

theorem head?_redrawn {w : Option Value} {values : List Value}
    (h : List.Forall₂ (Value.Redrawn P) w.toList values) :
    values = values.head?.toList ∧ Option.Rel (Value.Redrawn P) w values.head? := by
  cases w with
  | none =>
    rw [Option.toList_none, List.forall₂_nil_left_iff] at h
    subst h
    exact ⟨rfl, .none⟩
  | some w =>
    rw [Option.toList_some, List.forall₂_cons_left_iff] at h
    obtain ⟨w', rest, same, nothing, rfl⟩ := h
    obtain rfl := List.forall₂_nil_left_iff.1 nothing
    exact ⟨rfl, .some same⟩

/-- **The fields of a record** are there in both, and the same but for the digits. -/
theorem filed_redrawn (distinct : names.Nodup) (short : ∀ name ∈ names, name.length < 17)
    (h : v.Redrawn P v') (known : Filed names v filed) :
    ∃ filed', Filed names v' filed' ∧
      ∀ name ∈ names, Option.Rel (Value.Redrawn P) (filed name) (filed' name) := by
  cases h with
  | @object fields fields' h =>
    rw [filed_object_iff] at known
    obtain ⟨texts, values⟩ := known
    have alone (name : String) (member : name ∈ names) :=
      head?_redrawn (values name member ▸ under_redrawn (short name member) h)
    exact ⟨fun name => (under name fields').head?, filed_object_iff.2
      ⟨texts_redrawn h texts, fun name member => (alone name member).1⟩,
      fun name member => (alone name member).2⟩
  | @array items items' h =>
    have each := items_redrawn h
    obtain ⟨counted, same⟩ : items.length = names.length ∧ items.map some = names.map filed := by
      simpa only [Filed, record?, Option.ite_none_right_eq_some, Option.some.injEq] using known
    have record : record? names (.array items') = some (items'.map some) :=
      if_pos (each.length_eq.symm.trans counted)
    obtain ⟨filed', known'⟩ := exists_filed distinct record
    have same' : items'.map some = names.map filed' := Option.some.inj (record.symm.trans known')
    have whole : List.Forall₂ (Option.Rel (Value.Redrawn P)) (items.map some) (items'.map some) := by
      rw [List.forall₂_map_left_iff, List.forall₂_map_right_iff]
      exact each.imp fun _ _ => .some
    rw [same, same', List.forall₂_map_left_iff, List.forall₂_map_right_iff,
      List.forall₂_same] at whole
    exact ⟨filed', known', whole⟩
  | _ => simp [Filed, record?] at known

/-! ### Decoding -/

variable {α : Type} {R : α → α → Prop} {w w' : Option Value}

theorem text?_redrawn (h : v.Redrawn P v') {text : String} (read : v.text? = some text) :
    ∃ text', v'.text? = some text' ∧ RedrawnText P text text' := by
  cases h with
  | string texts =>
    obtain rfl : _ = some text := read
    cases texts with
    | some same => exact ⟨_, rfl, same⟩
  | _ => cases read

theorem required_redrawn {read : Value → Option α}
    (each : ∀ {v v' a}, v.Redrawn P v' → read v = some a → ∃ a', read v' = some a' ∧ R a a')
    (h : Option.Rel (Value.Redrawn P) w w') {a : α} (there : required read w = some a) :
    ∃ a', required read w' = some a' ∧ R a a' := by
  cases h with
  | none => cases there
  | some h => exact each h there

theorem optional_redrawn {read : Value → Option α}
    (each : ∀ {v v' a}, v.Redrawn P v' → read v = some a → ∃ a', read v' = some a' ∧ R a a')
    (h : Option.Rel (Value.Redrawn P) w w') {a : Option α} (there : optional read w = some a) :
    ∃ a', optional read w' = some a' ∧ Option.Rel R a a' := by
  cases h with
  | none =>
    obtain rfl := Option.some.inj there
    exact ⟨none, rfl, .none⟩
  | @some v v' h =>
    cases h with
    | null =>
      obtain rfl := Option.some.inj there
      exact ⟨none, rfl, .none⟩
    | _ =>
      obtain ⟨b, found, rfl⟩ := Option.map_eq_some_iff.1 there
      obtain ⟨b', found', same⟩ := each (by constructor <;> assumption) found
      exact ⟨some b', by simp [optional, found'], .some same⟩

theorem mapM_redrawn {read : Value → Option α}
    (each : ∀ {v v' a}, v.Redrawn P v' → read v = some a → ∃ a', read v' = some a' ∧ R a a')
    {items items' : List Value} (h : List.Forall₂ (Value.Redrawn P) items items') {as : List α}
    (there : items.mapM read = some as) :
    ∃ as', items'.mapM read = some as' ∧ List.Forall₂ R as as' := by
  induction h generalizing as with
  | nil =>
    obtain rfl := Option.some.inj there
    exact ⟨[], rfl, .nil⟩
  | cons first _ ih =>
    simp only [List.mapM_cons, Option.bind_eq_bind, Option.pure_def,
      Option.bind_eq_some_iff] at there ⊢
    obtain ⟨a, found, as, rest, same⟩ := there
    obtain rfl := Option.some.inj same
    obtain ⟨a', found', first⟩ := each first found
    obtain ⟨as', rest', others⟩ := ih rest
    exact ⟨_, ⟨a', found', as', rest', rfl⟩, .cons first others⟩

theorem listed_redrawn (read : Nat → Value → Option α) {room : Nat}
    (each : ∀ {room' v v' a}, room' < room → v.Redrawn P v' → read room' v = some a →
      ∃ a', read room' v' = some a' ∧ R a a')
    (h : Option.Rel (Value.Redrawn P) w w') {as : List α} (there : listed room read w = some as) :
    ∃ as', listed room read w' = some as' ∧ List.Forall₂ R as as' := by
  cases h with
  | none =>
    obtain rfl := Option.some.inj there
    exact ⟨[], rfl, .nil⟩
  | some h =>
    cases h with
    | array h =>
      cases room with
      | zero => cases there
      | succ room =>
        exact mapM_redrawn (fun same found => each (Nat.lt_succ_self _) same found)
          (items_redrawn h) there
    | _ => cases there

/-- The text of a code. -/
theorem codeOfValue?_redrawn {room : Nat} (h : v.Redrawn P v') {code : String}
    (there : codeOfValue? room v = some code) :
    ∃ code', codeOfValue? room v' = some code' ∧ RedrawnText P code code' := by
  cases room with
  | zero => cases there
  | succ room =>
    rw [codeOfValue?] at there ⊢
    cases found : record? ["code"] v with
    | none => simp [found] at there
    | some values =>
      obtain ⟨filed, known⟩ := exists_filed Kind.code.nodup_names found
      obtain ⟨filed₂, known', same⟩ := filed_redrawn Kind.code.nodup_names (by decide) h known
      have own : record? ["code"] v = some [filed "code"] := known
      have other : record? ["code"] v' = some [filed₂ "code"] := known'
      rw [own] at there
      rw [other]
      exact required_redrawn (fun same read => text?_redrawn same read)
        (same "code" (by simp [Kind.names])) there

/-- A place holds no text, so it is the same. -/
theorem spanOfValue?_redrawn {room : Nat} (h : v.Redrawn P v') {span : Span}
    (there : spanOfValue? room v = some span) : spanOfValue? room v' = some span := by
  have word {v v' : Value} {n : UInt64} (h : v.Redrawn P v') (read : v.word? = some n) :
      ∃ n', v'.word? = some n' ∧ n = n' := by
    cases h with
    | number => exact ⟨n, read, rfl⟩
    | _ => cases read
  have flag {v v' : Value} {b : Bool} (h : v.Redrawn P v') (read : v.bool? = some b) :
      ∃ b', v'.bool? = some b' ∧ b = b' := by
    cases h with
    | bool => exact ⟨b, read, rfl⟩
    | _ => cases read
  cases room with
  | zero => cases there
  | succ room =>
    rw [spanOfValue?] at there ⊢
    cases found : record? ["line_start", "column_start", "is_primary"] v with
    | none => simp [found] at there
    | some values =>
      obtain ⟨filed, known⟩ := exists_filed Kind.span.nodup_names found
      obtain ⟨filed₂, known', same⟩ := filed_redrawn Kind.span.nodup_names (by decide) h known
      have own : record? ["line_start", "column_start", "is_primary"] v =
        some [filed "line_start", filed "column_start", filed "is_primary"] := known
      have other : record? ["line_start", "column_start", "is_primary"] v' =
        some [filed₂ "line_start", filed₂ "column_start", filed₂ "is_primary"] := known'
      simp only [own, Option.bind_eq_bind, Option.pure_def, Option.bind_eq_some_iff] at there
      obtain ⟨line, lines, column, columns, primary, primaries, whole⟩ := there
      obtain rfl := Option.some.inj whole
      obtain ⟨_, lines', rfl⟩ :=
        required_redrawn (R := Eq) word (same "line_start" (by simp [Kind.names])) lines
      obtain ⟨_, columns', rfl⟩ :=
        required_redrawn (R := Eq) word (same "column_start" (by simp [Kind.names])) columns
      obtain ⟨_, primaries', rfl⟩ :=
        required_redrawn (R := Eq) flag (same "is_primary" (by simp [Kind.names])) primaries
      simp [other, lines', columns', primaries']

/-- **Values that are the same but for the digits are reports that are.** -/
theorem ofValueWithin?_redrawn {room : Nat} (h : v.Redrawn P v') {r : Report}
    (there : ofValueWithin? room v = some r) :
    ∃ r', ofValueWithin? room v' = some r' ∧ r.Redrawn P r' := by
  induction room using Nat.strong_induction_on generalizing v v' r with
  | _ room ih =>
    cases room with
    | zero => simp [ofValueWithin?] at there
    | succ room =>
      cases found : record? fieldNames v with
      | none => simp [ofValueWithin?, found] at there
      | some values =>
        obtain ⟨filed, known⟩ := exists_filed Kind.report.nodup_names found
        obtain ⟨filed', known', same⟩ := filed_redrawn Kind.report.nodup_names (by decide) h known
        obtain ⟨message, code, level, spans, children, rendered⟩ := r
        obtain ⟨said, coded, levelled, placed, below, drawn⟩ := (ofValueWithin?_iff known).1 there
        have field (name : String) (known : name ∈ fieldNames) := same name known
        have text {v v' : Value} {text : String} (same : v.Redrawn P v') (read : v.text? = some text) :=
          text?_redrawn same read
        obtain ⟨message', said', saying⟩ :=
          required_redrawn (R := RedrawnText P) text (field "message" (by decide)) said
        obtain ⟨code', coded', coding⟩ :=
          optional_redrawn (R := RedrawnText P) (fun same read => codeOfValue?_redrawn same read)
            (field "code" (by decide)) coded
        obtain ⟨level', levelled', levelling⟩ :=
          required_redrawn (R := RedrawnText P) text (field "level" (by decide)) levelled
        obtain ⟨spans', placed', placing⟩ := listed_redrawn spanOfValue? (R := Eq)
          (fun _ same found => ⟨_, spanOfValue?_redrawn same found, rfl⟩)
          (field "spans" (by decide)) placed
        obtain ⟨children', below', nesting⟩ := listed_redrawn ofValueWithin?
          (fun inner same found => ih _ (Nat.lt_succ_of_lt inner) same found)
          (field "children" (by decide)) below
        obtain ⟨rendered', drawn', drawing⟩ :=
          optional_redrawn (R := RedrawnText P) text (field "rendered" (by decide)) drawn
        rw [List.forall₂_eq_eq_eq] at placing
        subst placing
        exact ⟨.mk message' code' level' spans children' rendered',
          (ofValueWithin?_iff known').2 ⟨said', coded', levelled', placed', below', drawn'⟩,
          .mk saying coding levelling nesting drawing⟩

/-- **Lines that are the same but for the digits** are reports that are, or both are none. -/
theorem ofLine?_redrawn {line line' : List Char} (h : Plotter.Redrawn P line line') :
    Option.Rel (Report.Redrawn P) (ofLine? line) (ofLine? line') := by
  have other {P : UInt64 → UInt64 → Prop} {line line' : List Char} (h : Plotter.Redrawn P line line')
      {r : Report} (there : ofLine? line = some r) :
      ∃ r', ofLine? line' = some r' ∧ r.Redrawn P r' := by
    have values := Json.read?_redrawn h
    simp only [ofLine?] at there ⊢
    generalize Json.read? line = value at values there
    generalize Json.read? line' = value' at values
    cases values with
    | none => cases there
    | some same => exact ofValueWithin?_redrawn same there
  refine option_rel_of_forall (fun _ there => other h there) fun _ there' => ?_
  obtain ⟨_, there, -⟩ := other h.symm there'
  exact Option.isSome_of_eq_some there

end Report

/-! ### Diagnostics -/

/-- Levels that are the same but for the digits are one severity. -/
theorem Severity.ofLevel_redrawn {level level' : String} (h : RedrawnText P level level') :
    ofLevel level = ofLevel level' := by
  have begins {word : String} (plain : '_' ∉ word.toList) :
      word.toList.isPrefixOf level.toList = word.toList.isPrefixOf level'.toList := by
    rw [Bool.eq_iff_iff, List.isPrefixOf_iff_prefix, List.isPrefixOf_iff_prefix]
    exact Redrawn.prefix_iff h plain
  have help : level = "help" ↔ level' = "help" := by
    have short : "help".length < 17 := by decide
    simpa using Report.key_redrawn short (.some h)
  have error := begins (show '_' ∉ "error".toList by decide)
  have warning := begins (show '_' ∉ "warning".toList by decide)
  simp only [ofLevel, error, warning, help]

namespace Diagnostic

/-- Diagnostics that are the same but for the digits of chance. -/
structure Redrawn (P : UInt64 → UInt64 → Prop) (d d' : Diagnostic) : Prop where
  severity : d.severity = d'.severity
  code : Option.Rel (RedrawnText P) d.code d'.code
  message : RedrawnText P d.message d'.message
  location : d.location = d'.location
  expressionColumn : d.expressionColumn = d'.expressionColumn
  rendered : Option.Rel (RedrawnText P) d.rendered d'.rendered

theorem Redrawn.isError {d d' : Diagnostic} (h : d.Redrawn P d') : d.isError = d'.isError := by
  unfold Diagnostic.isError
  rw [h.severity]

/-- An error that the compiler did not report. -/
theorem redrawn_ofError {message message' : String} (h : RedrawnText P message message') :
    (ofError message).Redrawn P (ofError message') :=
  ⟨rfl, .none, h, rfl, rfl, .none⟩

theorem ofReport_redrawn (start : Location) {r r' : Report} (h : r.Redrawn P r') :
    (ofReport start r).Redrawn P (ofReport start r') := by
  cases h with
  | mk said coded levelled below drawn =>
    exact ⟨Severity.ofLevel_redrawn levelled, coded, said, rfl, rfl, drawn⟩

mutual

/-- The diagnostics of a report. -/
theorem flatten_redrawn (start : Location) : ∀ {r r' : Report}, r.Redrawn P r' →
    List.Forall₂ (Diagnostic.Redrawn P) (flatten start r) (flatten start r')
  | _, _, .mk said coded levelled below drawn => by
    simp only [flatten]
    exact .cons (ofReport_redrawn start (.mk said coded levelled below drawn))
      (flattenAll_redrawn start below)

/-- The diagnostics of several reports. -/
theorem flattenAll_redrawn (start : Location) : ∀ {rs rs' : List Report},
    List.Forall₂ (Report.Redrawn P) rs rs' →
      List.Forall₂ (Diagnostic.Redrawn P) (flattenAll start rs) (flattenAll start rs')
  | _, _, .nil => .nil
  | _, _, .cons first others => by
    simp only [flattenAll]
    exact List.rel_append (flatten_redrawn start first) (flattenAll_redrawn start others)

end

/-- The diagnostics of a line. -/
theorem ofOutputLine_redrawn (start : Location) {line line' : List Char}
    (h : Plotter.Redrawn P line line') :
    List.Forall₂ (Diagnostic.Redrawn P) (ofOutputLine start line) (ofOutputLine start line') := by
  simp only [ofOutputLine, h.all_isBlank]
  split
  · exact .nil
  · have reports := Report.ofLine?_redrawn h
    generalize Report.ofLine? line = report at reports
    generalize Report.ofLine? line' = report' at reports
    cases reports with
    | none =>
      refine .cons ⟨rfl, .none, ?_, rfl, rfl, .none⟩ .nil
      rwa [ofLine, ofLine, RedrawnText, String.toList_ofList, String.toList_ofList]
    | some same => exact flatten_redrawn start same

/-- **What the compiler writes, but for the digits, is told of in the same diagnostics.** -/
theorem ofOutput_redrawn (start : Location) {output output' : List Char}
    (h : Plotter.Redrawn P output output') :
    List.Forall₂ (Diagnostic.Redrawn P) (ofOutput start output) (ofOutput start output') :=
  List.rel_flatMap h.lines fun _ _ same => ofOutputLine_redrawn start same

end Diagnostic

end Plotter
