import Plotter.Failure
import Plotter.Files
import Plotter.Template.Builtin

/-!
# The template store

A store reads its template the first time it is asked for it and keeps it from then on. A
failure is not kept: the next time the template is read again.
-/

namespace Plotter

/-- Where a template comes from. -/
inductive TemplateSource
  /-- The one that comes with the program. -/
  | builtin
  /-- A file. -/
  | file (path : String)
  deriving Repr, DecidableEq

/-- The name of a source in messages. -/
def TemplateSource.name : TemplateSource → String
  | .builtin => Template.builtinName
  | .file path => path

/-- The text of a source as things stand. -/
def TemplateSource.read (files : Files) : TemplateSource → Except Failure String
  | .builtin => .ok Template.builtinText
  | .file path =>
    match files.read path with
    | .error fault =>
      if fault = .notFound then .error (.templateMissing path)
      else .error (.templateUnreadable (.system path fault))
    | .ok bytes =>
      match Text.Utf8.decode bytes with
      | .error fault => .error (.templateUnreadable (.notText path fault))
      | .ok text => .ok (String.ofList text)

/-- A text as a template. -/
def Template.parse (text : String) : Except Failure Template :=
  (Template.ofText text).mapError fun missing => .templateMalformed (.missing missing)

/-- The template of a source as things stand. -/
def TemplateSource.template (files : Files) (source : TemplateSource) :
    Except Failure Template := do
  Template.parse (← source.read files)

/-- A source and the template read from it, if it has been. -/
structure TemplateStore where
  source : TemplateSource
  kept : Option Template := none

/-- The template, and the store after it was asked for. -/
def TemplateStore.load (s : TemplateStore) (files : Files) :
    Except Failure Template × TemplateStore :=
  match s.kept with
  | some template => (.ok template, s)
  | none =>
    match s.source.template files with
    | .ok template => (.ok template, { s with kept := some template })
    | .error failure => (.error failure, s)

/-- A template that was read is kept whatever becomes of the files. -/
theorem TemplateStore.load_of_kept {s : TemplateStore} {template : Template}
    (h : s.kept = some template) (files : Files) : s.load files = (.ok template, s) := by
  simp [load, h]

/-- A store that has a template does not change. -/
theorem TemplateStore.load_load (s : TemplateStore) (files files' : Files) {template : Template}
    (h : (s.load files).1 = .ok template) :
    (s.load files).2.load files' = (.ok template, (s.load files).2) := by
  apply load_of_kept
  unfold load at h ⊢
  split
  · simp_all
  · split <;> simp_all

end Plotter
