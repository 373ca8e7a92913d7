import Plotter.Proofs.Diagnostic.Redrawn
import Plotter.Proofs.Request.Undisturbed
import Plotter.Proofs.Template.Pass

/-!
# Requests but for the digits of chance

One expression is given to two hosts with the same settings, whose sources of names draw different
digits. What the hosts work with may differ otherwise too: the places of their scratch directories,
the times, what was noted on the side. If the compiler answers their calls alike, that is to say the
same but for the digits and the times (`Response.Redrawn`), the requests come to the same but for
these.

Behind this is that a request which nothing disturbs finds what its own run left, so that what comes
of it is a matter of the answers to its calls (`Workshop.Ends.outcome`).

## What is proved

* `SourceUnit.redrawn_fill`: a unit is the same for all names, but for the digits.
* `Run.outcome_redrawn`: runs that are alike come to the same.
* `Compilation.Redrawn.outcome?`: so do two compilations that are alike.
-/

namespace Plotter

variable {P : UInt64 → UInt64 → Prop}

theorem RedrawnText.refl (text : String) : RedrawnText P text text := Redrawn.refl _

theorem RedrawnText.append {text text' more more' : String} (h : RedrawnText P text text')
    (h' : RedrawnText P more more') : RedrawnText P (text ++ more) (text' ++ more') := by
  unfold RedrawnText
  rw [String.toList_append, String.toList_append]
  exact Redrawn.append h h'

/-! ### Names and units -/

/-- Sources of names that are the same but for the digits that they draw. -/
structure NameSource.Redrawn (P : UInt64 → UInt64 → Prop) (s s' : NameSource) : Prop where
  base : s'.base = s.base
  issued : s'.issued = s.issued
  package : ∀ serial, P (s.chance serial).package (s'.chance serial).package
  unit : ∀ serial, P (s.chance serial).unit (s'.chance serial).unit

/-- Names that are the same but for the digits of chance. -/
structure UnitNames.Redrawn (P : UInt64 → UInt64 → Prop) (n n' : UnitNames) : Prop where
  package : RedrawnText P n.package n'.package
  unit : RedrawnText P n.unit n'.unit

theorem UnitNames.Redrawn.qualified {n n' : UnitNames} (h : n.Redrawn P n') :
    RedrawnText P n.qualified n'.qualified :=
  (h.package.append (.refl ".")).append h.unit

namespace NameSource

variable {s s' : NameSource}

/-- The names for a serial number. -/
theorem Redrawn.namesAt (h : s.Redrawn P s') (serial : UInt64) :
    (s.namesAt serial).Redrawn P (s'.namesAt serial) where
  package := by
    simp only [NameSource.namesAt, h.base]
    exact .append (.refl _) (Plotter.Redrawn.chance (h.package serial))
  unit := .append (.refl _) (Plotter.Redrawn.chance (h.unit serial))

theorem Redrawn.next (h : s.Redrawn P s') :
    s.next.1.Redrawn P s'.next.1 ∧ s.next.2.Redrawn P s'.next.2 := by
  refine ⟨?_, h.base, congrArg (· + 1) h.issued, h.package, h.unit⟩
  show (s.namesAt s.issued).Redrawn P (s'.namesAt s'.issued)
  rw [h.issued]
  exact h.namesAt s.issued

/-- No zero character is in the name of what is compiled. -/
theorem zero_not_mem_crate (s : NameSource) (serial : UInt64) :
    '\x00' ∉ (s.namesAt serial).crate.toList := by
  have lower : ∀ n : Fin 123, 48 ≤ n.val → (Char.ofNat n.val).toLower ≠ '\x00' := by
    decide +kernel
  rw [UnitNames.crate, String.toList_ofList, List.mem_map]
  rintro ⟨c, member, zero⟩
  obtain ⟨low, high⟩ :=
    toNat_of_isIdentifierRest (List.all_eq_true.1 (s.all_unit serial) c member)
  have own := lower ⟨c.toNat, Nat.lt_succ_of_le high⟩ low
  rw [Char.ofNat_toNat] at own
  exact own zero

end NameSource

/-- The place after a text. -/
theorem Location.after_redrawn {text text' : List Char} (h : Redrawn P text text') :
    after text = after text' := by
  -- Which characters are line feeds is the same in both.
  let feed (c : Char) : Bool := c == '\n'
  have same : text.map feed = text'.map feed := h.map_eq (a := false) fun c named => by
    rw [beq_eq_false_iff_ne]
    rintro rfl
    exact absurd named (by decide)
  have feeds (text : List Char) : text.count '\n' = (text.map feed).count true := by
    rw [List.count_eq_countP, List.count_eq_countP, List.countP_map]
    exact List.countP_congr fun c _ => by simp [feed]
  have last (text : List Char) : (text.reverse.takeWhile (· != '\n')).length =
      ((text.map feed).reverse.takeWhile (! ·)).length := by
    rw [← List.map_reverse, List.takeWhile_map, List.length_map]
    rfl
  simp only [after, feeds, last, same]

/-- Units that are the same but for the digits of chance, wherever their sources differ. -/
structure SourceUnit.Redrawn (P : UInt64 → UInt64 → Prop) (u u' : SourceUnit) : Prop where
  names : u.names.Redrawn P u'.names
  start : u.start = u'.start

/-- **A unit is the same for all names, but for the digits.** -/
theorem SourceUnit.redrawn_fill (template : Template) {names names' : UnitNames}
    (h : names.Redrawn P names') (expression : String) :
    (fill template names expression).Redrawn P (fill template names' expression) where
  names := h
  start := by
    have foreign : isIdentifierRest '$' = false := by decide
    have plain (p : Placeholder) : '_' ∉ p.word := by cases p <;> decide +kernel
    have named : Plotter.Redrawn P (named template names) (named template names') := by
      simp only [SourceUnit.named, Placeholder.toList_token]
      exact .replace foreign (plain .unit) h.unit
        (.replace foreign (plain .package) h.package (.refl _))
    have before := Redrawn.before? foreign (plain .expression) named
    simp only [fill, Placeholder.toList_token]
    generalize Text.before? _ _ = first at before
    generalize Text.before? _ _ = first' at before
    cases before with
    | none => rfl
    | some same => exact Location.after_redrawn same

/-! ### Answers of the compiler -/

/-- Answers that are the same but for the digits of chance in what the compiler writes, and for the
time that it takes. -/
inductive Response.Redrawn (P : UInt64 → UInt64 → Prop) : (answer answer' : Response) → Prop
  | unstarted (fault : SystemFault) : Redrawn P (.unstarted fault) (.unstarted fault)
  | endless (killed killed' : Option Product) :
      Redrawn P (.started .endless killed) (.started .endless killed')
  | deaf (fault : SystemFault) (killed killed' : Option Product) :
      Redrawn P (.started (.deaf fault) killed) (.started (.deaf fault) killed')
  | ended {run run' : Run} (killed killed' : Option Product) (status : run'.status = run.status)
      (left : run'.left = run.left)
      (report : Plotter.Redrawn P (Text.Utf8.decodeLenient run.report)
        (Text.Utf8.decodeLenient run'.report)) :
      Redrawn P (.started (.ended run) killed) (.started (.ended run') killed')

theorem Response.Redrawn.refl (answer : Response) : answer.Redrawn P answer := by
  cases answer with
  | unstarted fault => exact .unstarted fault
  | started course killed =>
    cases course with
    | endless => exact .endless killed killed
    | deaf fault => exact .deaf fault killed killed
    | ended run => exact .ended killed killed rfl rfl (.refl _)

/-- Calls for units that are the same but for the digits, with answers that are. -/
structure Compilation.Redrawn (P : UInt64 → UInt64 → Prop) (c c' : Compilation) : Prop where
  unit : c.unit.Redrawn P c'.unit
  response : c.response.Redrawn P c'.response

/-- Failures that are the same but for the digits of chance. -/
inductive Failure.Redrawn (P : UInt64 → UInt64 → Prop) : (failure failure' : Failure) → Prop
  | same (failure : Failure) : Redrawn P failure failure
  | compilation {unit unit' : String} {ds ds' : List Diagnostic} (named : RedrawnText P unit unit')
      (told : List.Forall₂ (Diagnostic.Redrawn P) ds ds') :
      Redrawn P (.compilation unit ds) (.compilation unit' ds')
  | capability {unit unit' : String} (named : RedrawnText P unit unit') (shortfall : Shortfall) :
      Redrawn P (.capability unit shortfall) (.capability unit' shortfall)
  | instantiation {unit unit' : String} (named : RedrawnText P unit unit') (reason : String) :
      Redrawn P (.instantiation unit reason) (.instantiation unit' reason)

/-- Ends of requests that are the same but for the digits of chance, the numbers of instances and the
time that the compiler took. -/
inductive Verdict.Redrawn (P : UInt64 → UInt64 → Prop) : (verdict verdict' : Verdict) → Prop
  | made (number number' elapsed elapsed' : Nat) {unit unit' : String} {ds ds' : List Diagnostic}
      (named : RedrawnText P unit unit') (told : List.Forall₂ (Diagnostic.Redrawn P) ds ds') :
      Redrawn P (.made number unit ds elapsed) (.made number' unit' ds' elapsed')
  | failed {failure failure' : Failure} (h : failure.Redrawn P failure') :
      Redrawn P (.failed failure) (.failed failure')

/-- What comes of two calls, the same but for the digits. -/
inductive RedrawnResult (P : UInt64 → UInt64 → Prop) :
    (result result' : Except Failure Verdict) → Prop
  | ok {verdict verdict' : Verdict} (h : verdict.Redrawn P verdict') :
      RedrawnResult P (.ok verdict) (.ok verdict')
  | error {failure failure' : Failure} (h : failure.Redrawn P failure') :
      RedrawnResult P (.error failure) (.error failure')

theorem Diagnostic.Redrawn.refl (d : Diagnostic) : d.Redrawn P d := by
  have text (text : Option String) : Option.Rel (RedrawnText P) text text := by
    cases text with
    | none => exact .none
    | some text => exact .some (.refl text)
  exact ⟨rfl, text _, .refl _, rfl, rfl, text _⟩

/-- There is an error among both or among neither. -/
theorem Diagnostic.any_isError_redrawn {ds ds' : List Diagnostic}
    (h : List.Forall₂ (Diagnostic.Redrawn P) ds ds') :
    ds.any Diagnostic.isError = ds'.any Diagnostic.isError := by
  induction h with
  | nil => rfl
  | cons first _ ih => rw [List.any_cons, List.any_cons, first.isError, ih]

namespace Failure.Redrawn

variable {failure failure' : Failure}

theorem isLoading (h : failure.Redrawn P failure') : failure.isLoading = failure'.isLoading := by
  cases h <;> rfl

/-- What the user is told. -/
theorem explanation (h : failure.Redrawn P failure') :
    List.Forall₂ (Diagnostic.Redrawn P) failure.explanation failure'.explanation := by
  have alone {message message' : String} (h : RedrawnText P message message') :
      List.Forall₂ (Diagnostic.Redrawn P) [.ofError message] [.ofError message'] :=
    .cons (Diagnostic.redrawn_ofError h) .nil
  cases h with
  | same => exact List.forall₂_same.2 fun d _ => .refl d
  | compilation named told => exact told
  | capability named shortfall =>
    exact alone ((((RedrawnText.refl _).append named).append (.refl _)).append (.refl _))
  | instantiation named reason =>
    exact alone ((((RedrawnText.refl _).append named).append (.refl _)).append (.refl _))

end Failure.Redrawn

namespace Run

variable {run run' : Run} {unit unit' : SourceUnit}

/-- **Runs that are alike come to the same**, but for the digits. -/
theorem outcome_redrawn (units : unit.Redrawn P unit') (status : run'.status = run.status)
    (left : run'.left = run.left) (report : Redrawn P (Text.Utf8.decodeLenient run.report)
      (Text.Utf8.decodeLenient run'.report)) (number number' : Nat) :
    RedrawnResult P (run.outcome unit number) (run'.outcome unit' number') := by
  have named := units.names.qualified
  have told : List.Forall₂ (Diagnostic.Redrawn P) (run.diagnostics unit.start)
      (run'.diagnostics unit'.start) := by
    rw [diagnostics, diagnostics, ← units.start]
    exact Diagnostic.ofOutput_redrawn unit.start report
  have remarks : List.Forall₂ (Diagnostic.Redrawn P) (run.warnings unit.start)
      (run'.warnings unit'.start) :=
    List.rel_filter (fun _ _ same => by simp only [same.isError]) told
  have complaints : List.Forall₂ (Diagnostic.Redrawn P) (run.complaints unit.start)
      (run'.complaints unit'.start) := by
    have same : run'.unexplained = run.unexplained := by rw [unexplained, unexplained, status]
    simp only [Run.complaints, Diagnostic.any_isError_redrawn told, same]
    split
    · exact told
    · exact List.rel_append told (.cons (.refl _) .nil)
  have compiled : run'.compiled run.left = run.compiled run.left := by
    rw [Run.compiled, Run.compiled, status]
  simp only [outcome, left, compiled]
  split
  · split
    · split
      · exact .error (.capability named _)
      · split
        · exact .ok (.made number number' run.elapsed run'.elapsed named remarks)
        · exact .error (.instantiation named _)
    · exact .error (.same _)
  · exact .error (.compilation named complaints)

end Run

namespace Compilation.Redrawn

variable {c c' : Compilation}

theorem outcome? (h : c.Redrawn P c') (program : String) (number number' : Nat) :
    Option.Rel (RedrawnResult P) (c.outcome? program number) (c'.outcome? program number') := by
  obtain ⟨units, responses⟩ := h
  simp only [Compilation.outcome?]
  generalize c.response = response at responses
  generalize c'.response = response' at responses
  cases responses with
  | unstarted fault => exact .some (.error (.same _))
  | endless => exact .none
  | deaf fault => exact .some (.error (.same _))
  | ended _ _ status left report =>
    exact .some (Run.outcome_redrawn units status left report number number')

theorem isSome_due? (h : c.Redrawn P c') : c.due?.isSome = c'.due?.isSome := by
  have responses := h.response
  simp only [Compilation.due?]
  generalize c.response = response at responses
  generalize c'.response = response' at responses
  cases responses <;> rfl

end Compilation.Redrawn

end Plotter
