import Plotter.Proofs.Diagnostic.Locality
import Plotter.Proofs.Diagnostic.Shown
import Plotter.Proofs.Json.Recognition

/-!
# What the layout of a report leaves open

From one version to the next the compiler may write the fields of its objects in another order,
add fields, leave out those that say nothing, and word the same value in another way. Whoever reads
only the fields of a report is told the same.

`Report.Change` has what may be done to the values of a report, at whatever depth; how a value is
worded is left to `Json.Wording`, which has all its texts.

## What is proved

* `Report.Change.keeps`: a change leaves what is decoded as it is.
* `Diagnostic.rewording_exact`: the diagnostics of a line that is a report are those of each line
  that words a changed value.
-/

namespace Plotter

namespace Report

open Json (Value)

/-! ### Changes -/

/-- The objects that make up a report. -/
inductive Kind
  | report | code | span

/-- The names of the fields of an object. -/
def Kind.names : Kind → List String
  | .report => fieldNames
  | .code => ["code"]
  | .span => ["line_start", "column_start", "is_primary"]

/-- The field with a name gets another value: in an object the field with that key, in an array the
one at its place. -/
inductive Replaces (names : List String) (name : String) (w w' : Value) : Value → Value → Prop
  | key {front back : List (Option String × Value)} :
      Replaces names name w w' (.object (front ++ (some name, w) :: back))
        (.object (front ++ (some name, w') :: back))
  | place {front back : List Value} (known : names[front.length]? = some name) :
      Replaces names name w w' (.array (front ++ w :: back)) (.array (front ++ w' :: back))

/-- A change to the value of a report or of an object in it. -/
inductive Change : Kind → Value → Value → Prop
  /-- The fields come in another order. -/
  | reorder {kind : Kind} {fields fields' : List (Option String × Value)}
      (h : fields.Perm fields') : Change kind (.object fields) (.object fields')
  /-- A field with an unknown name comes in, whatever its value is. -/
  | insert {kind : Kind} {front back : List (Option String × Value)} {name : String} {v : Value}
      (unknown : name ∉ kind.names) :
      Change kind (.object (front ++ back)) (.object (front ++ (some name, v) :: back))
  /-- A code or a rendering that is null is left out. -/
  | omitNull {front back : List (Option String × Value)} {name : String}
      (which : name = "code" ∨ name = "rendered") :
      Change .report (.object (front ++ (some name, .null) :: back)) (.object (front ++ back))
  /-- A list of places or of reports that is empty is left out. -/
  | omitEmpty {front back : List (Option String × Value)} {name : String}
      (which : name = "spans" ∨ name = "children") :
      Change .report (.object (front ++ (some name, .array []) :: back)) (.object (front ++ back))
  /-- The code is changed. -/
  | inCode {v v' code code' : Value} (h : Change .code code code')
      (site : Replaces fieldNames "code" code code' v v') : Change .report v v'
  /-- A place is changed. -/
  | inSpan {v v' span span' : Value} {before after : List Value} (h : Change .span span span')
      (site : Replaces fieldNames "spans" (.array (before ++ span :: after))
        (.array (before ++ span' :: after)) v v') : Change .report v v'
  /-- A report below is changed. -/
  | inChild {v v' child child' : Value} {before after : List Value}
      (h : Change .report child child')
      (site : Replaces fieldNames "children" (.array (before ++ child :: after))
        (.array (before ++ child' :: after)) v v') : Change .report v v'

/-- Changes to the value of a report, one after the other. -/
def Changes : Value → Value → Prop := Relation.ReflTransGen (Change .report)

/-! ### Fields by their names -/

/-- What the fields of a record are, by their names. -/
def Filed (names : List String) (v : Value) (filed : String → Option Value) : Prop :=
  record? names v = some (names.map filed)

/-- The values that stand under a key. -/
def under (name : String) (fields : List (Option String × Value)) : List Value :=
  (fields.filter fun field => field.1 == some name).map (·.2)

section

variable {names : List String} {fields front back : List (Option String × Value)} {name : String}
  {w : Value} {filed : String → Option Value}

theorem lookup_eq_head? : lookup name fields = (under name fields).head? := by
  rw [lookup, under, List.head?_map, List.head?_filter]

theorem under_append : under name (front ++ back) = under name front ++ under name back := by
  simp [under]

theorem under_cons_self : under name ((some name, w) :: fields) = w :: under name fields := by
  simp [under]

theorem under_cons_of_ne {other : String} (h : other ≠ name) :
    under name ((some other, w) :: fields) = under name fields := by
  simp [under, h]

/-- An object has its fields by their keys: each key has a text, and at most one value stands under
each name. -/
theorem filed_object_iff : Filed names (.object fields) filed ↔
    (∀ field ∈ fields, field.1.isSome = true) ∧
      ∀ name ∈ names, under name fields = (filed name).toList := by
  have alone (name : String) : under name fields = (filed name).toList ↔
      (under name fields).length ≤ 1 ∧ (under name fields).head? = filed name := by
    cases under name fields with
    | nil => cases filed name <;> simp
    | cons v vs => cases filed name <;> cases vs <;> simp
  have sound : keysSound names fields = true ↔ (∀ field ∈ fields, field.1.isSome = true) ∧
      ∀ name ∈ names, (under name fields).length ≤ 1 := by
    simp [keysSound, under]
  by_cases keyed : keysSound names fields = true
  · obtain ⟨texts, once⟩ := sound.1 keyed
    rw [Filed, record?, if_pos keyed, Option.some.injEq, List.map_inj_left]
    simp only [lookup_eq_head?, alone]
    exact ⟨fun same => ⟨texts, fun name known => ⟨once name known, same name known⟩⟩,
      fun whole name known => (whole.2 name known).2⟩
  · rw [Filed, record?, if_neg keyed]
    refine ⟨fun missing => by simp at missing, fun whole => absurd (sound.2 ⟨whole.1, ?_⟩) keyed⟩
    exact fun name known => ((alone name).1 (whole.2 name known)).1

/-- The one value under a name is that of the field. -/
theorem alone_of_toList {before after : List Value} {v : Option Value}
    (h : before ++ w :: after = v.toList) : v = some w ∧ before = [] ∧ after = [] := by
  cases v with
  | none => simp at h
  | some v =>
    cases before with
    | nil => simpa [eq_comm] using h
    | cons _ _ => simp at h

/-- The fields may be in any order. -/
theorem Filed.reorder {fields' : List (Option String × Value)}
    (h : Filed names (.object fields) filed) (same : fields.Perm fields') :
    Filed names (.object fields') filed := by
  rw [filed_object_iff] at h ⊢
  refine ⟨fun field member => h.1 field (same.mem_iff.2 member), fun name known => ?_⟩
  have perm : (under name fields).Perm (under name fields') := (same.filter _).map _
  rw [h.2 name known] at perm
  cases found : filed name with
  | none =>
    rw [found] at perm
    exact perm.symm.eq_nil
  | some v =>
    rw [found] at perm
    exact List.perm_singleton.1 perm.symm

/-- A field with an unknown name makes no difference. -/
theorem Filed.insert (h : Filed names (.object (front ++ back)) filed) (unknown : name ∉ names) :
    Filed names (.object (front ++ (some name, w) :: back)) filed := by
  rw [filed_object_iff] at h ⊢
  refine ⟨fun field member => ?_, fun other known => ?_⟩
  · rcases List.mem_append.1 member with first | last
    · exact h.1 field (List.mem_append_left _ first)
    · rcases List.mem_cons.1 last with rfl | last
      · rfl
      · exact h.1 field (List.mem_append_right _ last)
  · have apart : name ≠ other := fun same => unknown (same ▸ known)
    rw [under_append, under_cons_of_ne apart, ← under_append]
    exact h.2 other known

/-- A field that is left out is absent, and the others are as they were. -/
theorem Filed.omit (h : Filed names (.object (front ++ (some name, w) :: back)) filed)
    (known : name ∈ names) : filed name = some w ∧
      Filed names (.object (front ++ back)) (Function.update filed name none) := by
  rw [filed_object_iff] at h
  obtain ⟨texts, values⟩ := h
  have own := values name known
  rw [under_append, under_cons_self] at own
  obtain ⟨found, before, after⟩ := alone_of_toList own
  refine ⟨found, filed_object_iff.2 ⟨fun field member => texts field ?_, fun other member => ?_⟩⟩
  · rw [List.mem_append] at member
    simp only [List.mem_append, List.mem_cons]
    tauto
  · by_cases same : other = name
    · subst same
      rw [under_append, before, after, Function.update_self]
      rfl
    · rw [Function.update_of_ne same, ← values other member, under_append, under_append,
        under_cons_of_ne (Ne.symm same)]

/-- A field that gets another value has it, and the others are as they were. -/
theorem Filed.replace {w' v v' : Value} (h : Filed names v filed) (known : name ∈ names)
    (distinct : names.Nodup) (site : Replaces names name w w' v v') : filed name = some w ∧
      Filed names v' (Function.update filed name (some w')) := by
  cases site with
  | key =>
    rw [filed_object_iff] at h
    obtain ⟨texts, values⟩ := h
    have own := values name known
    rw [under_append, under_cons_self] at own
    obtain ⟨found, before, after⟩ := alone_of_toList own
    refine ⟨found, filed_object_iff.2 ⟨fun field member => ?_, fun other member => ?_⟩⟩
    · simp only [List.mem_append, List.mem_cons] at member texts
      rcases member with first | rfl | last
      · exact texts field (.inl first)
      · rfl
      · exact texts field (.inr (.inr last))
    · by_cases same : other = name
      · subst same
        rw [under_append, under_cons_self, before, after, Function.update_self]
        rfl
      · rw [Function.update_of_ne same, ← values other member, under_append, under_append,
          under_cons_of_ne (Ne.symm same), under_cons_of_ne (Ne.symm same)]
  | @place front back place =>
    obtain ⟨before, after, rfl, length⟩ : ∃ before after,
        names = before ++ name :: after ∧ front.length = before.length := by
      obtain ⟨inside, found⟩ := List.getElem?_eq_some_iff.1 place
      refine ⟨names.take front.length, names.drop (front.length + 1), ?_, by simp; omega⟩
      rw [← found, ← List.drop_eq_getElem_cons inside, List.take_append_drop]
    have apart : ∀ other ∈ before ++ after, other ≠ name := fun other member same =>
      (List.nodup_middle.1 distinct).notMem (same ▸ member)
    obtain ⟨all, same⟩ : (front ++ w :: back).length = (before ++ name :: after).length ∧
        (front ++ w :: back).map some = (before ++ name :: after).map filed := by
      simpa only [Filed, record?, Option.ite_none_right_eq_some, Option.some.injEq] using h
    rw [List.map_append, List.map_append, List.map_cons, List.map_cons] at same
    obtain ⟨first, rest⟩ := List.append_inj same (by simpa using length)
    obtain ⟨own, last⟩ := List.cons.inj rest
    refine ⟨own.symm, ?_⟩
    have counted : (front ++ w' :: back).length = (before ++ name :: after).length := by
      simpa using all
    have others (names : List String) (h : ∀ other ∈ names, other ≠ name) :
        names.map (Function.update filed name (some w')) = names.map filed :=
      List.map_congr_left fun other member => Function.update_of_ne (h other member) _ _
    rw [Filed, record?, if_pos counted, List.map_append, List.map_append, List.map_cons,
      List.map_cons, others before fun other member => apart other (List.mem_append_left _ member),
      others after fun other member => apart other (List.mem_append_right _ member), first, last,
      Function.update_self]

/-- The fields of a record have names. -/
theorem exists_filed {v : Value} {values : List (Option Value)} (distinct : names.Nodup)
    (h : record? names v = some values) : ∃ filed, Filed names v filed := by
  cases v with
  | object fields =>
    refine ⟨fun name => lookup name fields, ?_⟩
    by_cases keyed : keysSound names fields = true
    · rw [Filed, record?, if_pos keyed]
    · simp [record?, keyed] at h
  | array items =>
    by_cases counted : items.length = names.length
    · refine ⟨fun name => items[names.idxOf name]?, ?_⟩
      rw [Filed, record?, if_pos counted, Option.some.injEq]
      refine List.ext_getElem (by simpa using counted) fun i inside _ => ?_
      have place : i < items.length := by simpa using inside
      simp [distinct.idxOf_getElem, place]
    · simp [record?, counted] at h
  | _ => simp [record?] at h

end

/-! ### What is decoded -/

/-- What is decoded of an object is the same. -/
def Kind.Keeps : Kind → Value → Value → Prop
  | .report, v, v' => ∀ room r, ofValueWithin? room v = some r → ofValueWithin? room v' = some r
  | .code, v, v' => ∀ room code, codeOfValue? room v = some code → codeOfValue? room v' = some code
  | .span, v, v' => ∀ room span, spanOfValue? room v = some span → spanOfValue? room v' = some span

theorem Kind.nodup_names (kind : Kind) : kind.names.Nodup := by
  cases kind <;> decide

/-- What a report is decoded from, field by field, with room for `room` levels in each. -/
def DecodedBy (room : Nat) (filed : String → Option Value) : Report → Prop
  | .mk message code level spans children rendered =>
    required Value.text? (filed "message") = some message ∧
      optional (codeOfValue? room) (filed "code") = some code ∧
        required Value.text? (filed "level") = some level ∧
          listed room spanOfValue? (filed "spans") = some spans ∧
            listed room ofValueWithin? (filed "children") = some children ∧
              optional Value.text? (filed "rendered") = some rendered

theorem ofValueWithin?_iff {v : Value} {filed : String → Option Value} {room : Nat} {r : Report}
    (h : Filed fieldNames v filed) :
    ofValueWithin? (room + 1) v = some r ↔ DecodedBy room filed r := by
  obtain ⟨message, code, level, spans, children, rendered⟩ := r
  rw [ofValueWithin?_of_record h]
  simp [DecodedBy, Option.bind_eq_some_iff]

/-- What has fields from which the same is decoded is decoded in the same way. -/
theorem keeps_of_decodedBy {v v' : Value}
    (h : ∀ {room filed r}, Filed fieldNames v filed → DecodedBy room filed r →
      ∃ filed', Filed fieldNames v' filed' ∧ DecodedBy room filed' r) : Kind.report.Keeps v v' := by
  intro room r decoded
  cases room with
  | zero => simp [ofValueWithin?] at decoded
  | succ room =>
    cases found : record? fieldNames v with
    | none => simp [ofValueWithin?, found] at decoded
    | some values =>
      obtain ⟨filed, known⟩ := exists_filed Kind.report.nodup_names found
      obtain ⟨filed', known', same⟩ := h known ((ofValueWithin?_iff known).1 decoded)
      exact (ofValueWithin?_iff known').2 same

/-- What has the same fields is decoded in the same way. -/
theorem keeps_of_filed {kind : Kind} {v v' : Value}
    (h : ∀ filed, Filed kind.names v filed → Filed kind.names v' filed) : kind.Keeps v v' := by
  cases kind with
  | report => exact keeps_of_decodedBy fun known decoded => ⟨_, h _ known, decoded⟩
  | code =>
    intro room code decoded
    cases room with
    | zero => simp [codeOfValue?] at decoded
    | succ room =>
      rw [codeOfValue?] at decoded ⊢
      cases found : record? ["code"] v with
      | none => simp [found] at decoded
      | some values =>
        obtain ⟨filed, known⟩ := exists_filed Kind.code.nodup_names found
        have known' : record? ["code"] v' = some values :=
          (h filed known).trans (known.symm.trans found)
        rw [known', ← found]
        exact decoded
  | span =>
    intro room span decoded
    cases room with
    | zero => simp [spanOfValue?] at decoded
    | succ room =>
      rw [spanOfValue?] at decoded ⊢
      cases found : record? ["line_start", "column_start", "is_primary"] v with
      | none => simp [found] at decoded
      | some values =>
        obtain ⟨filed, known⟩ := exists_filed Kind.span.nodup_names found
        have known' : record? ["line_start", "column_start", "is_primary"] v' = some values :=
          (h filed known).trans (known.symm.trans found)
        rw [known', ← found]
        exact decoded

/-- A list is decoded in the same way if one of its items is. -/
theorem listed_replace {α : Type} {read : (room : Nat) → Value → Option α} {w w' : Value}
    (same : ∀ room a, read room w = some a → read room w' = some a) {room : Nat}
    {before after : List Value} {as : List α}
    (h : listed room read (some (.array (before ++ w :: after))) = some as) :
    listed room read (some (.array (before ++ w' :: after))) = some as := by
  cases room with
  | zero => simp [listed] at h
  | succ room =>
    simp only [listed, List.mapM_append, List.mapM_cons] at h ⊢
    obtain ⟨first, read, h⟩ := Option.bind_eq_some_iff.1 h
    obtain ⟨rest, h, same'⟩ := Option.bind_eq_some_iff.1 h
    obtain ⟨a, own, last⟩ := Option.bind_eq_some_iff.1 h
    rw [read, same room a own]
    exact Option.bind_eq_some_iff.2 ⟨first, rfl, Option.bind_eq_some_iff.2 ⟨rest, last, same'⟩⟩

/-- A code is changed as an object. -/
theorem Change.ne_null {code code' : Value} (h : Change .code code code') :
    code ≠ .null ∧ code' ≠ .null := by
  cases h <;> simp

theorem optional_of_ne_null {α : Type} {read : Value → Option α} {v : Value} (present : v ≠ .null) :
    optional read (some v) = (read v).map some := by
  cases v <;> first | rfl | exact absurd rfl present

/-- **A change leaves what is decoded as it is.** -/
theorem Change.keeps {kind : Kind} {v v' : Value} (h : Change kind v v') : kind.Keeps v v' := by
  induction h with
  | reorder same => exact keeps_of_filed fun filed known => known.reorder same
  | insert unknown => exact keeps_of_filed fun filed known => known.insert unknown
  | omitNull which =>
    refine keeps_of_decodedBy fun {room filed r} known decoded => ?_
    obtain ⟨message, code, level, spans, children, rendered⟩ := r
    rcases which with rfl | rfl
    · obtain ⟨found, known'⟩ := known.omit (by decide)
      exact ⟨_, known', by simpa [DecodedBy, Function.update_apply, found, optional] using decoded⟩
    · obtain ⟨found, known'⟩ := known.omit (by decide)
      exact ⟨_, known', by simpa [DecodedBy, Function.update_apply, found, optional] using decoded⟩
  | omitEmpty which =>
    have empty {α : Type} {room : Nat} {read : (room : Nat) → Value → Option α} {as : List α}
        (h : listed room read (some (.array [])) = some as) : listed room read none = some as := by
      cases room with
      | zero => simp [listed] at h
      | succ room => simpa [listed] using h
    refine keeps_of_decodedBy fun {room filed r} known decoded => ?_
    obtain ⟨message, code, level, spans, children, rendered⟩ := r
    obtain ⟨said, coded, levelled, placed, nested, drawn⟩ := decoded
    rcases which with rfl | rfl
    · obtain ⟨found, known'⟩ := known.omit (by decide)
      rw [found] at placed
      exact ⟨_, known', said, coded, levelled, empty placed, nested, drawn⟩
    · obtain ⟨found, known'⟩ := known.omit (by decide)
      rw [found] at nested
      exact ⟨_, known', said, coded, levelled, placed, empty nested, drawn⟩
  | inCode h site ih =>
    refine keeps_of_decodedBy fun {room filed r} known decoded => ?_
    obtain ⟨message, code, level, spans, children, rendered⟩ := r
    obtain ⟨said, coded, levelled, placed, nested, drawn⟩ := decoded
    obtain ⟨found, known'⟩ := known.replace (by decide) Kind.report.nodup_names site
    refine ⟨_, known', said, ?_, levelled, placed, nested, drawn⟩
    rw [found, optional_of_ne_null h.ne_null.1, Option.map_eq_some_iff] at coded
    obtain ⟨text, read, rfl⟩ := coded
    rw [Function.update_self, optional_of_ne_null h.ne_null.2, ih room text read]
    rfl
  | inSpan h site ih =>
    refine keeps_of_decodedBy fun {room filed r} known decoded => ?_
    obtain ⟨message, code, level, spans, children, rendered⟩ := r
    obtain ⟨said, coded, levelled, placed, nested, drawn⟩ := decoded
    obtain ⟨found, known'⟩ := known.replace (by decide) Kind.report.nodup_names site
    rw [found] at placed
    exact ⟨_, known', said, coded, levelled, listed_replace ih placed, nested, drawn⟩
  | inChild h site ih =>
    refine keeps_of_decodedBy fun {room filed r} known decoded => ?_
    obtain ⟨message, code, level, spans, children, rendered⟩ := r
    obtain ⟨said, coded, levelled, placed, nested, drawn⟩ := decoded
    obtain ⟨found, known'⟩ := known.replace (by decide) Kind.report.nodup_names site
    rw [found] at nested
    exact ⟨_, known', said, coded, levelled, placed, listed_replace ih nested, drawn⟩

theorem Changes.keeps {v v' : Value} (h : Changes v v') : Kind.report.Keeps v v' := by
  induction h with
  | refl => exact fun room r decoded => decoded
  | tail _ last ih => exact fun room r decoded => last.keeps room r (ih room r decoded)

/-- A line that is a report is not blank. -/
theorem seen_of_ofLine? {line : List Char} {r : Report} (h : ofLine? line = some r) :
    line.all Text.isBlank = false := by
  have brace : Text.isBlank '\x7b' = false := by decide
  have bracket : Text.isBlank '[' = false := by decide
  obtain ⟨v, read, decoded⟩ := Option.bind_eq_some_iff.1 h
  cases Json.read?_eq_some_iff.1 read with
  | padded left right worded =>
    cases worded with
    | noItems => simp [bracket]
    | array => simp [bracket]
    | noFields => simp [brace]
    | object => simp [brace]
    | _ => simp [ofValue?, nesting, ofValueWithin?, record?] at decoded

end Report

namespace Diagnostic

open Report

/-- **The layout of a report makes no difference.** A line that is a report words a value. Let the
fields of the objects in it be in another order, let fields with unknown names and any values come
in, let codes and renderings that are null and lists that are empty be left out, as often as may be
and at whatever depth; and let what comes of it be worded in any way on a line. The diagnostics of
that line are the same. -/
theorem rewording_exact (start : Location) {line : List Char} {r : Report} (feed : '\n' ∉ line)
    (decoded : ofLine? line = some r) :
    (∃ v, Json.Wording (.padded v) line) ∧
      ∀ v v' line', Json.Wording (.padded v) line → Changes v v' →
        Json.Wording (.padded v') line' → '\n' ∉ line' →
          ofLine? line' = some r ∧ ofOutput start line' = ofOutput start line := by
  obtain ⟨v, read, known⟩ := Option.bind_eq_some_iff.1 decoded
  refine ⟨⟨v, Json.read?_eq_some_iff.1 read⟩, fun w w' line' worded changed worded' feed' => ?_⟩
  obtain rfl : v = w := Option.some.inj (read.symm.trans (Json.read?_of_wording worded))
  have decoded' : ofLine? line' = some r := by
    rw [ofLine?, Json.read?_of_wording worded', Option.bind_some]
    exact changed.keeps nesting r known
  refine ⟨decoded', ?_⟩
  have seen := seen_of_ofLine? decoded
  have seen' := seen_of_ofLine? decoded'
  rw [ofOutput_of_not_mem start feed seen, ofOutput_of_not_mem start feed' seen', ofOutputLine,
    ofOutputLine, if_neg (by simp [seen']), if_neg (by simp [seen]), decoded, decoded']

/-- A report with its fields in another order, a new one among them, two left out and its strings
spelled otherwise. -/
theorem rewording_of_new :
    let line := "\x7b\"message\":\"é\",\"code\":null,\"level\":\"error\",\"spans\":[]\x7d".toList
    let line' :=
      "\x7b \"level\" : \"err\\u006fr\",\"new\":[[],\"\\uD800\"],\"message\":\"\\u00E9\"\x7d".toList
    (Report.ofLine? line = some (.mk "é" none "error" [] [] none) ∧ '\n' ∉ line ∧ '\n' ∉ line') ∧
      ofOutput ⟨1, 1⟩ line' = ofOutput ⟨1, 1⟩ line := by
  intro line line'
  let message : Option String × Json.Value := (some "message", .string (some "é"))
  let level : Option String × Json.Value := (some "level", .string (some "error"))
  let new : Json.Value := .array [.array [], .string none]
  have feed : '\n' ∉ line := by decide +kernel
  have feed' : '\n' ∉ line' := by decide +kernel
  have read : Json.read? line = some (.object
      [message, (some "code", .null), level, (some "spans", .array [])]) := by rfl
  have decoded : Report.ofLine? line = some (.mk "é" none "error" [] [] none) := by
    rw [Report.ofLine?, read, Option.bind_some]
    simp [ofValue?, nesting, ofValueWithin?, record?, fieldNames, keysSound, lookup, required,
      Report.optional, listed, Json.Value.text?, message, level]
  have read' : Json.read? line' = some (.object [level, (some "new", new), message]) := by rfl
  have changes : Changes (.object [message, (some "code", .null), level, (some "spans", .array [])])
      (.object [level, (some "new", new), message]) := by
    have first : Change .report
        (.object ([message] ++ (some "code", .null) :: [level, (some "spans", .array [])]))
        (.object ([message] ++ [level, (some "spans", .array [])])) := .omitNull (.inl rfl)
    have second : Change .report (.object ([message, level] ++ (some "spans", .array []) :: []))
        (.object ([message, level] ++ [])) := .omitEmpty (.inl rfl)
    have third : Change .report (.object ([message] ++ [level]))
        (.object ([message] ++ (some "new", new) :: [level])) := .insert (by decide)
    have fourth : Change .report (.object [message, (some "new", new), level])
        (.object [level, (some "new", new), message]) :=
      .reorder (List.reverse_perm [level, (some "new", new), message])
    exact ((Relation.ReflTransGen.single first).tail second |>.tail third).tail fourth
  have whole := (rewording_exact ⟨1, 1⟩ feed decoded).2 _ _ line' (Json.read?_eq_some_iff.1 read)
    changes (Json.read?_eq_some_iff.1 read') feed'
  exact ⟨⟨decoded, feed, feed'⟩, whole.2⟩

end Diagnostic

end Plotter
