import Mathlib.Data.List.Induction
import Plotter.Proofs.Text.Replacing
import Plotter.Proofs.Text.Utf8
import Plotter.Template.Store

/-!
# A template is read once

The file of a template is not the store's own: between two loads it may be written, removed and
replaced by anyone. So what a load answers is told from what is at the path (`Files.Shows`), and
what a store does over time from the events around it: the files change, or the store is asked for
its template (`Shelf`).

## What is proved

* `Files.shows_iff`: what a path shows is what is read there, and nothing else of the files matters.
* `Shelf.keeps`: until a load succeeds, each load answers what the path shows, and leaves the store
  as it was if it fails; the template of the first load that succeeds is the answer ever after.
-/

namespace Plotter

/-! ### What a path shows -/

/-- The bytes that one reads at a place. Of a program none are known. -/
def Entry.bytes? : Entry → Option (List UInt8)
  | .file bytes _ => some bytes
  | .directory => none
  | .program => some []

theorem Files.read_eq (f : Files) (path : String) :
    f.read path =
      match f.find path with
      | .error fault => .error fault
      | .ok entry =>
        match entry.bytes? with
        | some bytes => .ok bytes
        | none => .error .isADirectory := by
  unfold read
  cases f.find path with
  | error fault => rfl
  | ok entry => cases entry <;> rfl

/-- A load of the template at a path looks at what is there, and at nothing else. -/
theorem TemplateSource.template_file (f : Files) (path : String) :
    (TemplateSource.file path).template f =
      match f.find path with
      | .error fault =>
        if fault = .notFound then .error (.templateMissing path)
        else .error (.templateUnreadable (.system path fault))
      | .ok entry =>
        match entry.bytes? with
        | none => .error (.templateUnreadable (.system path .isADirectory))
        | some bytes =>
          match Text.Utf8.decode bytes with
          | .error fault => .error (.templateUnreadable (.notText path fault))
          | .ok text => Template.parse (String.ofList text) := by
  simp only [template, read, Files.read_eq]
  cases f.find path with
  | error fault =>
    dsimp only
    split <;> rfl
  | ok entry =>
    dsimp only
    cases entry.bytes? with
    | none => rfl
    | some bytes =>
      dsimp only
      cases Text.Utf8.decode bytes <;> rfl

namespace Template

/-- The placeholders that a text lacks are those whose tokens are nowhere in it. -/
theorem mem_missing {text : String} {p : Placeholder} :
    p ∈ missing text ↔ ¬p.token.toList <:+: text.toList := by
  rw [missing, List.mem_filter, ← Text.occurs_iff, ← Placeholder.occursIn]
  cases p <;> simp [Placeholder.all]

theorem parse_text (template : Template) : parse template.text = .ok template := by
  have complete : missing template.text = [] := by
    rw [missing, List.filter_eq_nil_iff]
    intro p member
    simp [template.complete p member]
  rw [parse, ofText, dif_pos complete]
  rfl

theorem parse_of_lacking {text : String} {p : Placeholder}
    (lacks : ¬p.token.toList <:+: text.toList) :
    parse text = .error (.templateMalformed (.missing (missing text))) := by
  have incomplete : missing text ≠ [] := List.ne_nil_of_mem (mem_missing.2 lacks)
  rw [parse, ofText, dif_neg incomplete]
  rfl

/-- A text is that of a template, or lacks a token. -/
theorem parse_cases (text : String) :
    (∃ template : Template, template.text = text) ∨
      ∃ p : Placeholder, ¬p.token.toList <:+: text.toList := by
  by_cases complete : missing text = []
  · refine .inl ⟨⟨text, fun p member => ?_⟩, rfl⟩
    simpa using List.filter_eq_nil_iff.1 complete p member
  · obtain ⟨p, lacks⟩ := List.exists_mem_of_ne_nil _ complete
    exact .inr ⟨p, mem_missing.1 lacks⟩

end Template

/-- What one finds at a path who reads a template there: why there is none, or the template. -/
inductive Files.Shows (f : Files) (path : String) : Except Failure Template → Prop
  /-- Nothing is there. -/
  | absent (there : f.find path = .error .notFound) : Shows f path (.error (.templateMissing path))
  /-- The path leads nowhere. -/
  | unreachable {fault : SystemFault} (there : f.find path = .error fault)
      (other : fault ≠ .notFound) :
      Shows f path (.error (.templateUnreadable (.system path fault)))
  /-- A directory is there. -/
  | directory (there : f.find path = .ok .directory) :
      Shows f path (.error (.templateUnreadable (.system path .isADirectory)))
  /-- The bytes there are the encoding of no text. -/
  | broken {entry : Entry} {bytes : List UInt8} {fault : Text.Utf8.Fault}
      (there : f.find path = .ok entry) (holds : entry.bytes? = some bytes)
      (unencoded : ∀ text, Text.Utf8.encode text ≠ bytes)
      (first : Text.Utf8.decode bytes = .error fault) :
      Shows f path (.error (.templateUnreadable (.notText path fault)))
  /-- The text there lacks a token. -/
  | lacking {entry : Entry} {text : String} {p : Placeholder} (there : f.find path = .ok entry)
      (holds : entry.bytes? = some (Text.Utf8.encode text.toList))
      (lacks : ¬p.token.toList <:+: text.toList) :
      Shows f path (.error (.templateMalformed (.missing (Template.missing text))))
  /-- The text there is a template. -/
  | complete {entry : Entry} {template : Template} (there : f.find path = .ok entry)
      (holds : entry.bytes? = some (Text.Utf8.encode template.text.toList)) :
      Shows f path (.ok template)

namespace Files

open Text.Utf8 (decode_eq_ok_iff)

variable {f f' : Files} {path : String} {result : Except Failure Template}

/-- **A load of a template answers what the path shows.** -/
theorem shows_iff : f.Shows path result ↔ (TemplateSource.file path).template f = result := by
  rw [TemplateSource.template_file]
  constructor
  · intro shown
    cases shown with
    | absent there => simp [there]
    | unreachable there other => simp [there, other]
    | directory there => simp [there, Entry.bytes?]
    | broken there holds unencoded first => simp [there, holds, first]
    | lacking there holds lacks =>
      simp [there, holds, (decode_eq_ok_iff _ _).2 rfl, Template.parse_of_lacking lacks]
    | complete there holds =>
      simp [there, holds, (decode_eq_ok_iff _ _).2 rfl, Template.parse_text]
  · rintro rfl
    cases there : f.find path with
    | error fault =>
      dsimp only
      split
      · rename_i known
        exact .absent (known ▸ there)
      · rename_i other
        exact .unreachable there other
    | ok entry =>
      dsimp only
      cases holds : entry.bytes? with
      | none =>
        cases entry with
        | directory => exact .directory there
        | _ => simp [Entry.bytes?] at holds
      | some bytes =>
        dsimp only
        cases decoded : Text.Utf8.decode bytes with
        | error fault =>
          refine .broken there holds (fun text encoded => ?_) decoded
          rw [(decode_eq_ok_iff bytes text).2 encoded] at decoded
          simp at decoded
        | ok text =>
          have encoded := (decode_eq_ok_iff bytes text).1 decoded
          dsimp only
          rcases Template.parse_cases (String.ofList text) with ⟨template, same⟩ | ⟨p, lacks⟩
          · rw [← same, Template.parse_text]
            refine .complete there ?_
            rw [holds, same, String.toList_ofList, encoded]
          · rw [Template.parse_of_lacking lacks]
            refine .lacking there ?_ lacks
            rw [holds, String.toList_ofList, encoded]

/-- What a path shows depends on what is there, and on nothing else. -/
theorem Shows.congr (shown : f.Shows path result) (same : f'.find path = f.find path) :
    f'.Shows path result := by
  rw [shows_iff, TemplateSource.template_file] at shown ⊢
  rw [same]
  exact shown

end Files

/-! ### A store and the files around it -/

/-- A store, and the files around it. -/
structure Shelf where
  files : Files
  store : TemplateStore

namespace Shelf

/-- What can happen to a store and the files around it. -/
inductive Event
  /-- Somebody changes the files: writes one, removes one, makes a directory, or does more. What the
  system refuses changes nothing. -/
  | change (change : Files → Except SystemFault Files)
  /-- The store is asked for its template. -/
  | load

/-- A store of the template at a path that was not asked yet. -/
def fresh (path : String) (files : Files) : Shelf := ⟨files, { source := .file path }⟩

/-- What the store answers if it is asked now. -/
def answer (s : Shelf) : Except Failure Template := (s.store.load s.files).1

/-- What an event makes of a store and the files. -/
def react (s : Shelf) : Event → Shelf
  | .change change =>
    match change s.files with
    | .ok files => { s with files }
    | .error _ => s
  | .load => { s with store := (s.store.load s.files).2 }

/-- What a list of events makes of a store and the files. -/
def after (s : Shelf) (events : List Event) : Shelf := events.foldl react s

/-- No load among the events was successful. -/
def Unmet (s : Shelf) (events : List Event) : Prop :=
  ∀ before later, events = before ++ .load :: later →
    ∃ failure, (s.after before).answer = .error failure

/-! ### Before the first success -/

variable {s s' : Shelf} {events : List Event} {template : Template}

/-- A load that fails changes nothing. -/
theorem react_load_of_error {failure : Failure} (failed : s.answer = .error failure) :
    s.react .load = s := by
  obtain ⟨files, source, kept⟩ := s
  simp only [answer, react, TemplateStore.load] at failed ⊢
  cases kept with
  | some template => rfl
  | none =>
    dsimp only at failed ⊢
    split at failed
    · simp at failed
    · rename_i failure read
      simp only

theorem after_concat (s : Shelf) (events : List Event) (e : Event) :
    s.after (events ++ [e]) = (s.after events).react e := by
  simp [after]

/-- **A store that has no template stays as it was** until a load succeeds. -/
theorem store_after_of_unmet (unmet : s.Unmet events) : (s.after events).store = s.store := by
  induction events using List.reverseRecOn with
  | nil => rfl
  | append_singleton events e ih =>
    have earlier : s.Unmet events := by
      intro before later split
      exact unmet before (later ++ [e]) (by simp [split])
    rw [after_concat]
    cases e with
    | change change =>
      rw [← ih earlier]
      simp only [react]
      split <;> rfl
    | load =>
      obtain ⟨failure, failed⟩ := unmet events [] rfl
      rw [react_load_of_error failed, ih earlier]

/-- As long as no load succeeded, the answer is what the path shows. -/
theorem shows_of_unmet {path : String} {files : Files} (unmet : (fresh path files).Unmet events) :
    ((fresh path files).after events).files.Shows path ((fresh path files).after events).answer := by
  have store := store_after_of_unmet unmet
  rw [Files.shows_iff, answer, store]
  simp only [fresh, TemplateStore.load]
  split <;> assumption

/-! ### From the first success on -/

theorem kept_of_answer (answered : s.answer = .ok template) :
    (s.react .load).store = ⟨s.store.source, some template⟩ := by
  obtain ⟨files, source, kept⟩ := s
  simp only [answer, react, TemplateStore.load] at answered ⊢
  cases kept with
  | some kept =>
    dsimp only at answered ⊢
    rw [Except.ok.inj answered]
  | none =>
    dsimp only at answered ⊢
    split at answered
    · simp only [Except.ok.inj answered]
    · simp at answered

/-- **A template that was given out is kept**, whatever happens to the files. -/
theorem store_after_of_kept (kept : s.store.kept = some template) (events : List Event) :
    (s.after events).store = s.store := by
  induction events using List.reverseRecOn with
  | nil => rfl
  | append_singleton events e ih =>
    rw [after_concat]
    cases e with
    | change change =>
      rw [← ih]
      simp only [react]
      split <;> rfl
    | load =>
      simp only [react]
      rw [ih, TemplateStore.load_of_kept kept]

/-! ### All together -/

/-- What a store of the template at a path is like after some events: `before` the first load that
succeeds, and from then on. -/
structure Keeps (path : String) (files : Files) (events : List Event) : Prop where
  /-- Until a load succeeds, the store has nothing. -/
  unread : (fresh path files).Unmet events →
    ((fresh path files).after events).store = { source := .file path }
  /-- Until then, the answer is what the path shows at that moment. -/
  shown : (fresh path files).Unmet events →
    ((fresh path files).after events).files.Shows path ((fresh path files).after events).answer
  /-- Until then, whatever happened before does not matter. -/
  alone : (fresh path files).Unmet events →
    ∀ files' events', (fresh path files').Unmet events' →
      ((fresh path files').after events').files.find path =
        ((fresh path files).after events).files.find path →
      ((fresh path files').after events').answer = ((fresh path files).after events).answer
  /-- A load that fails changes nothing. -/
  failed : ∀ failure, ((fresh path files).after events).answer = .error failure →
    ((fresh path files).after events).react .load = (fresh path files).after events
  /-- A template that was given out is the answer to every later load. -/
  kept : ∀ template, ((fresh path files).after events).answer = .ok template →
    ∀ later,
      ((fresh path files).after (events ++ .load :: later)).store = ⟨.file path, some template⟩ ∧
        ((fresh path files).after (events ++ .load :: later)).answer = .ok template

/-- The source of a store stays. -/
theorem source_after (s : Shelf) (events : List Event) :
    (s.after events).store.source = s.store.source := by
  induction events using List.reverseRecOn with
  | nil => rfl
  | append_singleton events e ih =>
    rw [after_concat, ← ih]
    cases e with
    | change change =>
      simp only [react]
      split <;> rfl
    | load =>
      simp only [react, TemplateStore.load]
      split
      · rfl
      · split <;> rfl

/-- **A template is read once**, whatever happens to the files. -/
theorem keeps (path : String) (files : Files) (events : List Event) : Keeps path files events where
  unread := store_after_of_unmet
  shown := shows_of_unmet
  alone := by
    intro unmet files' events' unmet' same
    have shown := (shows_of_unmet unmet).congr same
    have shown' := shows_of_unmet unmet'
    rw [Files.shows_iff] at shown shown'
    exact shown'.symm.trans shown
  failed := fun _ => react_load_of_error
  kept := by
    intro template answered later
    have split : (fresh path files).after (events ++ .load :: later) =
        (((fresh path files).after events).react .load).after later := by
      simp [after]
    have met := kept_of_answer answered
    rw [source_after] at met
    have store := store_after_of_kept (congrArg TemplateStore.kept met) later
    rw [split]
    refine ⟨store.trans met, ?_⟩
    rw [answer, store, met, TemplateStore.load_of_kept rfl]

end Shelf

end Plotter
