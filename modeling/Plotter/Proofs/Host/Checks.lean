import Plotter.Proofs.Host.Furnished
import Plotter.Proofs.Template.Keeping

/-!
# Setting up a host is all or nothing

Six things are checked when a host is set up, one after the other: the base of package names, the
toolchain, the level of optimization, the way to the scratch directory, that directory itself, and
the template. What is wrong with one of them is told by itself (`Host.Check.Fails`), so several may
be wrong at once; the one that is checked first is reported then (`Host.FirstFails`).

The template is read last, when the scratch directory is there already. If it cannot be used, the
scratch directory goes again, so no failure leaves one behind.

## What is proved

* `Host.setUp_exact`: a set-up fails just in case a check does, with the failure of the first one,
  and leaves no scratch directory then; otherwise there is a host with an empty scratch directory of
  its own, its template at hand and no name handed out.

## Honest scope

The directories in which a scratch directory is to be made are made with it, and they stay even if
the set-up fails.
-/

namespace Plotter

/-! ### Scratch directories that come and go -/

namespace Machine

/-- The scratch directories that are there have the numbers of those that were made. -/
def Counted (m : Machine) : Prop := ∀ s ∈ m.scratches, s.number < m.opened

variable {m m' : Machine}

theorem Unused.counted (h : m.Unused) : m.Counted := by
  simp [Counted, h.2]

/-- The next scratch directory is not there yet. -/
theorem Counted.hasScratch_opened (h : m.Counted) : m.hasScratch m.opened = false := by
  rw [hasScratch, scratch?, Option.isSome_eq_false_iff, Option.isNone_iff_eq_none,
    List.find?_eq_none]
  intro s member
  simpa using Nat.ne_of_lt (h s member)

/-- The machine with one more scratch directory than before. -/
structure OneMore (m m' : Machine) : Prop where
  opened : m'.opened = m.opened + 1
  scratches : m'.scratches = m.scratches ++ [{ number := m.opened }]

theorem OneMore.counted (h : m.OneMore m') (counted : m.Counted) : m'.Counted := by
  intro s member
  rw [h.scratches] at member
  rw [h.opened]
  rcases List.mem_append.1 member with old | new
  · exact Nat.lt_succ_of_lt (counted s old)
  · rw [List.mem_singleton.1 new]
    exact Nat.lt_succ_self m.opened

/-- The scratch directory that was made is found by its number. -/
theorem OneMore.scratch? (h : m.OneMore m') (counted : m.Counted) :
    m'.scratch? m.opened = some { number := m.opened } := by
  have absent := counted.hasScratch_opened
  rw [hasScratch, Option.isSome_eq_false_iff, Option.isNone_iff_eq_none] at absent
  rw [Machine.scratch?] at absent ⊢
  rw [h.scratches, List.find?_append, absent]
  simp

theorem Counted.closeScratch (h : m.Counted) (number : Nat) : (m.closeScratch number).Counted :=
  fun s member => h s (List.mem_filter.1 member).1

/-- A scratch directory that is made and removed leaves those that were there before. -/
theorem OneMore.scratches_closeScratch (h : m.OneMore m') (counted : m.Counted) :
    (m'.closeScratch m.opened).scratches = m.scratches := by
  have others : ∀ s ∈ m.scratches, (s.number != m.opened) = true :=
    fun s member => bne_iff_ne.2 (Nat.ne_of_lt (counted s member))
  simp [closeScratch, h.scratches, List.filter_append, List.filter_eq_self.2 others]

/-- From one machine to another, no scratch directory came or went, what is in them is the same, and
the compiler was not called. -/
structure Undone (m m' : Machine) : Prop where
  scratches : m'.scratches = m.scratches
  attempts : m'.attempts = m.attempts

end Machine

/-! ### The template that comes with the program -/

namespace Template

/-- Whatever stands on a line of the built-in template stands in it. -/
theorem infix_builtinText {line : String} (h : line ∈ builtinLines) :
    line.toList <:+: builtinText.toList := by
  have whole : (line ++ "\n").toList <:+: builtinText.toList := by
    rw [builtinText, String.toList_join, List.flatMap_def]
    exact List.infix_of_mem_flatten
      (List.mem_map.2 ⟨line ++ "\n", List.mem_map.2 ⟨line, h, rfl⟩, rfl⟩)
  rw [String.toList_append] at whole
  exact List.IsInfix.trans (List.prefix_append ..).isInfix whole

theorem complete_builtinText : ∀ p ∈ Placeholder.all, p.occursIn builtinText = true := by
  have found {p : Placeholder} {line : String} (known : line ∈ builtinLines)
      (there : p.token.toList <:+: line.toList) : p.occursIn builtinText = true :=
    Text.occurs_iff.2 (there.trans (infix_builtinText known))
  have package : "pub mod $packageName \x7b" ∈ builtinLines := by simp [builtinLines]
  have unit : "    pub struct $unitName;" ∈ builtinLines := by simp [builtinLines]
  have expression : "            $expression" ∈ builtinLines := by simp [builtinLines]
  intro p _
  cases p with
  | package => exact found package ⟨"pub mod ".toList, " \x7b".toList, by decide +kernel⟩
  | unit => exact found unit ⟨"    pub struct ".toList, ";".toList, by decide +kernel⟩
  | expression => exact found expression ⟨"            ".toList, [], by decide +kernel⟩

theorem parse_of_complete {text : String}
    (complete : ∀ p ∈ Placeholder.all, p.occursIn text = true) :
    parse text = .ok ⟨text, complete⟩ :=
  parse_text ⟨text, complete⟩

end Template

theorem TemplateSource.template_of_read {files : Files} {source : TemplateSource} {text : String}
    (h : source.read files = .ok text) : source.template files = Template.parse text := by
  rw [template, h]
  rfl

/-- The built-in template is one. -/
theorem TemplateSource.template_builtin (files : Files) :
    ∃ template, TemplateSource.builtin.template files = .ok template := by
  have whole : TemplateSource.builtin.read files = .ok Template.builtinText := by rw [read]
  exact ⟨_, (template_of_read whole).trans
    (Template.parse_of_complete Template.complete_builtinText)⟩

namespace Host

/-! ### Checks -/

/-- What is checked when a host is set up. -/
inductive Check
  /-- The base of package names is an identifier. -/
  | packageBase
  /-- There is a compiler, and it tells its version. -/
  | toolchain
  /-- There is such a level of optimization. -/
  | optimization
  /-- The directory is there in which the scratch directory is to be, or can be made. -/
  | scratchParent
  /-- The scratch directory can be made in it. -/
  | scratch
  /-- There is a template. -/
  | template
  deriving Repr, DecidableEq

/-- The checks of a host with a toolchain that is there, in their order. -/
def Check.further : List Check := [.optimization, .scratchParent, .scratch, .template]

/-- All checks, in their order. -/
def Check.all : List Check := .packageBase :: .toolchain :: further

/-- The compiler that settings ask for: the one that they name, or else the one that is looked up. -/
def soughtCompiler (m : Machine) (s : HostSettings) : Option String :=
  s.compiler.compiler.or (m.find? "rustc")

/-- The files once the way to the scratch directory is made, as far as it can be. -/
def founded (m : Machine) (s : HostSettings) : Files :=
  match s.compiler.scratchParent with
  | none => m.files
  | some path => (m.files.makePath path).toOption.getD m.files

/-- What is wrong where a check looks, whatever is wrong elsewhere. -/
inductive Check.Fails (m : Machine) (s : HostSettings) : Check → Failure → Prop
  | packageBase (unnameable : isIdentifier s.packageBase.toList = false) :
      Fails m s .packageBase (.configuration (.packageBase s.packageBase))
  | notFound (nowhere : soughtCompiler m s = none) : Fails m s .toolchain (.toolchain .notFound)
  | unstartable {path : String} {fault : SystemFault} (sought : soughtCompiler m s = some path)
      (refused : m.start path = .error fault) :
      Fails m s .toolchain (.toolchain (.unstartable path fault))
  | versionless {path : String} (sought : soughtCompiler m s = some path)
      (started : m.start path = .ok ()) (silent : m.tool.version.1.success = false) :
      Fails m s .toolchain (.toolchain (.versionless path m.tool.version.1))
  | optimization (high : 3 < s.compiler.optimization) :
      Fails m s .optimization (.configuration (.optimization s.compiler.optimization))
  | scratchParent {path : String} {fault : SystemFault}
      (asked : s.compiler.scratchParent = some path)
      (barred : m.files.makePath path = .error fault) : Fails m s .scratchParent (.system fault)
  | scratch {fault : SystemFault}
      (refused : m.refusal? (founded m s) s.compiler.scratchParent = some fault) :
      Fails m s .scratch (.system fault)
  | template {path : String} {failure : Failure} (asked : s.template = .file path)
      (shown : (founded m s).Shows path (.error failure)) : Fails m s .template failure

/-- The failure of the first check that fails. -/
inductive FirstFails (m : Machine) (s : HostSettings) : List Check → Failure → Prop
  | here {c : Check} {cs : List Check} {failure : Failure} (fails : c.Fails m s failure) :
      FirstFails m s (c :: cs) failure
  | later {c : Check} {cs : List Check} {failure : Failure} (passes : ∀ other, ¬c.Fails m s other)
      (rest : FirstFails m s cs failure) : FirstFails m s (c :: cs) failure

section

variable {m : Machine} {s : HostSettings} {c : Check} {cs : List Check} {failure other : Failure}

/-- Where nothing is checked, nothing fails. -/
theorem FirstFails.not_nil : ¬FirstFails m s [] failure := nofun

/-- What a check fails with is reported, and no check after it counts. -/
theorem firstFails_of_fails (unique : ∀ g, c.Fails m s g → g = other) (fails : c.Fails m s other) :
    FirstFails m s (c :: cs) failure ↔ other = failure := by
  constructor
  · intro h
    cases h with
    | here fails' => exact (unique _ fails').symm
    | later passes rest => exact absurd fails (passes other)
  · rintro rfl
    exact .here fails

/-- A check that passes does not count. -/
theorem firstFails_of_passes (passes : ∀ g, ¬c.Fails m s g) :
    FirstFails m s (c :: cs) failure ↔ FirstFails m s cs failure := by
  constructor
  · intro h
    cases h with
    | here fails => exact absurd fails (passes failure)
    | later passes rest => exact rest
  · exact .later passes

end

/-! ### What each step of a set-up says -/

variable {m : Machine} {s : HostSettings} {failure : Failure}

theorem packageBase_eq_error_iff :
    packageBase s = .error failure ↔ Check.packageBase.Fails m s failure := by
  unfold packageBase PackageBase.ofText?
  by_cases valid : isIdentifier s.packageBase.toList = true
  · rw [dif_pos valid]
    constructor
    · nofun
    · rintro ⟨unnameable⟩
      rw [valid] at unnameable
      cases unnameable
  · rw [dif_neg valid]
    constructor
    · intro h
      rw [← Except.error.inj h]
      exact .packageBase (by simpa using valid)
    · rintro ⟨-⟩
      rfl

theorem packageBase_text {base : PackageBase} (h : packageBase s = .ok base) :
    base.text = s.packageBase := by
  unfold packageBase PackageBase.ofText? at h
  split_ifs at h
  · rw [← Except.ok.inj h]

theorem detect_eq (m : Machine) (s : HostSettings) :
    Toolchain.detect m s.compiler.compiler =
      match soughtCompiler m s with
      | some path => Toolchain.atPath m path
      | none => .error (.toolchain .notFound) := by
  unfold soughtCompiler
  cases s.compiler.compiler with
  | some path => rfl
  | none =>
    rw [Toolchain.detect, Toolchain.search, Option.none_or]
    rfl

theorem detect_eq_error_iff :
    Toolchain.detect m s.compiler.compiler = .error failure ↔
      Check.toolchain.Fails m s failure := by
  rw [detect_eq]
  constructor
  · intro failed
    cases sought : soughtCompiler m s with
    | none =>
      simp only [sought] at failed
      cases failed
      exact .notFound sought
    | some path =>
      simp only [sought, Toolchain.atPath] at failed
      cases started : m.start path with
      | error fault =>
        simp only [started] at failed
        cases failed
        exact .unstartable sought started
      | ok _ =>
        simp only [started] at failed
        split at failed
        · cases failed
        · rename_i silent
          cases failed
          exact .versionless sought started (by simpa using silent)
  · intro fails
    cases fails with
    | notFound nowhere => simp [nowhere]
    | unstartable sought refused => simp [sought, Toolchain.atPath, refused]
    | versionless sought started silent => simp [sought, Toolchain.atPath, started, silent]

theorem makeParent_eq_error_iff :
    Bench.makeParent m s.compiler.scratchParent = .error failure ↔
      Check.scratchParent.Fails m s failure := by
  constructor
  · intro failed
    cases asked : s.compiler.scratchParent with
    | none => simp [asked, Bench.makeParent] at failed
    | some path =>
      cases made : m.files.makePath path with
      | ok files => simp [asked, Bench.makeParent, made] at failed
      | error fault =>
        simp only [asked, Bench.makeParent, made] at failed
        cases failed
        exact .scratchParent asked made
  · intro fails
    cases fails with
    | scratchParent asked barred => simp [asked, Bench.makeParent, barred]

/-- Where the way to the scratch directory can be made, nothing but the files is changed. -/
theorem of_makeParent {m' : Machine}
    (made : Bench.makeParent m s.compiler.scratchParent = .ok m') :
    m' = { m with files := founded m s } := by
  unfold founded
  cases asked : s.compiler.scratchParent with
  | none =>
    rw [asked] at made
    exact (Except.ok.inj made).symm
  | some path =>
    simp only [asked, Bench.makeParent] at made
    split at made
    · rename_i files found
      rw [← Except.ok.inj made]
      simp [found, Except.toOption]
    · cases made

/-- The scratch directory is made once the way to it is. -/
theorem openScratchIn_eq_error_iff :
    (Machine.openScratchIn { m with files := founded m s } s.compiler.scratchParent).mapError
        Failure.system = .error failure ↔ Check.scratch.Fails m s failure := by
  constructor
  · intro failed
    cases opened :
        Machine.openScratchIn { m with files := founded m s } s.compiler.scratchParent with
    | ok made =>
      rw [opened] at failed
      cases failed
    | error fault =>
      rw [opened] at failed
      cases failed
      exact .scratch (Machine.openScratchIn_eq_error_iff.1 opened)
  · intro fails
    cases fails with
    | scratch refused =>
      rw [Machine.openScratchIn_eq_error_iff.2 refused]
      rfl

theorem template_eq_error_iff :
    s.template.template (founded m s) = .error failure ↔ Check.template.Fails m s failure := by
  constructor
  · intro failed
    cases asked : s.template with
    | builtin =>
      obtain ⟨template, built⟩ := TemplateSource.template_builtin (founded m s)
      rw [asked, built] at failed
      cases failed
    | file path => exact .template asked (Files.shows_iff.2 (asked ▸ failed))
  · intro fails
    cases fails with
    | template asked shown =>
      rw [asked]
      exact Files.shows_iff.1 shown

/-! ### From the steps to the whole -/

section

variable {α : Type} {result : Except Failure α} {c : Check} {cs : List Check} {other : Failure}

/-- A step that fails is the first to do so. -/
theorem firstFails_of_error (step : ∀ failure, result = .error failure ↔ c.Fails m s failure)
    (failed : result = .error other) :
    FirstFails m s (c :: cs) failure ↔ other = failure := by
  refine firstFails_of_fails (fun g fails => ?_) ((step other).1 failed)
  exact Except.error.inj (((step g).2 fails).symm.trans failed)

/-- A step that does not fail leaves it to those after it. -/
theorem firstFails_of_ok {a : α} (step : ∀ failure, result = .error failure ↔ c.Fails m s failure)
    (passed : result = .ok a) : FirstFails m s (c :: cs) failure ↔ FirstFails m s cs failure := by
  refine firstFails_of_passes fun g fails => ?_
  cases ((step g).2 fails).symm.trans passed

end

/-- What was made of nothing: a host with a scratch directory of its own, which is new and empty, and
with its template at hand, on a machine where nothing else was done. -/
structure New (m : Machine) (s : HostSettings) (host : Host) (m' : Machine) : Prop where
  own : m.hasScratch host.bench.scratch = false
  empty : m'.scratch? host.bench.scratch = some ⟨host.bench.scratch, []⟩
  others : m'.scratches = m.scratches ++ [⟨host.bench.scratch, []⟩]
  attempts : m'.attempts = m.attempts
  template : ∃ template, s.template.template (founded m s) = .ok template ∧
    host.templates.kept = some template
  retries : host.retries = s.retries

/-- All or nothing: a set-up fails as it is said, and leaves nothing behind then, or what it made is
good. -/
structure AllOrNothing {α : Type} (m : Machine) (fails : Failure → Prop)
    (good : α → Machine → Prop) (result : Except Failure α × Machine) : Prop where
  told : ∀ failure, result.1 = .error failure ↔ fails failure
  undone : ∀ failure, result.1 = .error failure → m.Undone result.2
  made : ∀ a, result.1 = .ok a → good a result.2
  counted : result.2.Counted

section

variable {α : Type} {m' : Machine} {fails : Failure → Prop} {good : α → Machine → Prop}

theorem AllOrNothing.nothing (fails_iff : ∀ other, fails other ↔ failure = other)
    (undone : m.Undone m') (counted : m'.Counted) :
    AllOrNothing m fails good (.error failure, m') where
  told := fun other => by rw [fails_iff, Except.error.injEq]
  undone := fun _ _ => undone
  made := nofun
  counted := counted

theorem AllOrNothing.all {a : α} (passes : ∀ other, ¬fails other) (made : good a m')
    (counted : m'.Counted) : AllOrNothing m fails good (.ok a, m') where
  told := fun other => ⟨nofun, fun failed => absurd failed (passes other)⟩
  undone := nofun
  made := fun _ same => Except.ok.inj same ▸ made
  counted := counted

end

/-- A host with a toolchain that is there. -/
def equip (m : Machine) (s : HostSettings) (toolchain : Toolchain) :
    Except Failure Host × Machine :=
  match Bench.withToolchain m s.compiler toolchain with
  | .error failure => (.error failure, m)
  | .ok (bench, m) => onBench m { source := s.template } bench s.retries

/-- A host is put on a bench unless its template cannot be used. -/
theorem onBench_cases (m : Machine) (templates : TemplateStore) (bench : Bench) (retries : UInt32) :
    (∃ failure, (templates.load m.files).1 = .error failure ∧
        onBench m templates bench retries = (.error failure, m.closeScratch bench.scratch)) ∨
      ∃ template, (templates.load m.files).1 = .ok template ∧
        (templates.load m.files).2.kept = some template ∧
          onBench m templates bench retries =
            (.ok ⟨bench, (templates.load m.files).2, retries⟩, m) := by
  unfold onBench
  cases loaded : templates.load m.files with
  | mk result store =>
    cases result with
    | error failure => exact .inl ⟨failure, rfl, rfl⟩
    | ok template =>
      have given : (templates.load m.files).1 = .ok template := by rw [loaded]
      have kept := TemplateStore.kept_load given
      rw [loaded] at kept
      exact .inr ⟨template, rfl, kept, rfl⟩

theorem load_eq_error_iff {templates : TemplateStore} {files : Files} :
    (templates.load files).1 = .error failure ↔
      templates.kept = none ∧ templates.source.template files = .error failure := by
  unfold TemplateStore.load
  cases templates.kept with
  | some template => simp
  | none => cases templates.source.template files <;> simp

theorem load_fresh {source : TemplateSource} {files : Files} {result : Except Failure Template} :
    (({ source } : TemplateStore).load files).1 = result ↔ source.template files = result := by
  unfold TemplateStore.load
  cases source.template files <;> simp

/-- The level of optimization is checked, then the way to the scratch directory, then whether it can
be made. -/
theorem withToolchain_cases (m : Machine) (s : HostSettings) (toolchain : Toolchain) :
    (∃ failure, Bench.withToolchain m s.compiler toolchain = .error failure ∧
        ∀ other, FirstFails m s Check.further other ↔ failure = other) ∨
      ∃ bench m', Bench.withToolchain m s.compiler toolchain = .ok (bench, m') ∧
        m'.files = founded m s ∧
          ∀ other, FirstFails m s Check.further other ↔ FirstFails m s [.template] other := by
  unfold Bench.withToolchain
  by_cases high : Settings.maxOptimization < s.compiler.optimization
  · rw [if_pos high]
    refine .inl ⟨_, rfl, fun other => firstFails_of_fails ?_ (.optimization high)⟩
    rintro g ⟨⟩
    rfl
  · rw [if_neg high]
    have optimized : ∀ other, FirstFails m s Check.further other ↔
        FirstFails m s [.scratchParent, .scratch, .template] other := by
      refine fun other => firstFails_of_passes fun g fails => ?_
      cases fails with
      | optimization high' => exact high high'
    cases made : Bench.makeParent m s.compiler.scratchParent with
    | error failure =>
      refine .inl ⟨failure, rfl, fun other => (optimized other).trans ?_⟩
      exact firstFails_of_error (fun _ => makeParent_eq_error_iff) made
    | ok housed =>
      have placed : ∀ other, FirstFails m s Check.further other ↔
          FirstFails m s [.scratch, .template] other := fun other =>
        (optimized other).trans (firstFails_of_ok (fun _ => makeParent_eq_error_iff) made)
      obtain rfl := of_makeParent made
      have step (g : Failure) := @openScratchIn_eq_error_iff m s g
      dsimp only
      cases opened :
          Machine.openScratchIn { m with files := founded m s } s.compiler.scratchParent with
      | error fault =>
        rw [opened] at step
        exact .inl ⟨_, rfl, fun other => (placed other).trans (firstFails_of_error step rfl)⟩
      | ok scratch =>
        rw [opened] at step
        obtain ⟨-, rfl⟩ := Machine.openScratchIn_eq_ok_iff.1 opened
        exact .inr ⟨_, _, rfl, rfl, fun other => (placed other).trans (firstFails_of_ok step rfl)⟩

theorem allOrNothing_equip (counted : m.Counted) (toolchain : Toolchain) :
    AllOrNothing m (FirstFails m s Check.further) (New m s) (equip m s toolchain) := by
  unfold equip
  rcases withToolchain_cases m s toolchain with
    ⟨failure, failed, first⟩ | ⟨bench, m', made, files, last⟩
  · rw [failed]
    exact .nothing first ⟨rfl, rfl⟩ counted
  · obtain ⟨own, opened, scratches, attempts, -, -⟩ := Bench.of_withToolchain made
    have more : m.OneMore m' := ⟨opened, scratches⟩
    rw [made]
    dsimp only
    rcases onBench_cases m' { source := s.template } bench s.retries with
      ⟨failure, failed, same⟩ | ⟨template, given, kept, same⟩
    · rw [load_fresh, files] at failed
      have closed : (m'.closeScratch bench.scratch).scratches = m.scratches := by
        rw [own]
        exact more.scratches_closeScratch counted
      rw [same]
      exact .nothing
        (fun other =>
          (last other).trans (firstFails_of_error (fun _ => template_eq_error_iff) failed))
        ⟨closed, attempts⟩ ((more.counted counted).closeScratch _)
    · rw [load_fresh, files] at given
      have passes (other : Failure) : ¬FirstFails m s Check.further other := by
        rw [last, firstFails_of_ok (fun _ => template_eq_error_iff) given]
        exact FirstFails.not_nil
      rw [same]
      exact .all passes
        ⟨own ▸ counted.hasScratch_opened, own ▸ more.scratch? counted, own ▸ scratches, attempts,
          ⟨template, given, kept⟩, rfl⟩ (more.counted counted)

theorem allOrNothing_beside (counted : m.Counted) (host : Host) :
    AllOrNothing m (FirstFails m s Check.further) (New m s) (host.beside m s) := by
  have same : host.beside m s = equip m s host.bench.toolchain := rfl
  rw [same]
  exact allOrNothing_equip counted host.bench.toolchain

/-- The first two checks of a set-up from nothing pass if there is a base and a toolchain. -/
theorem firstFails_all_iff {base : PackageBase} {toolchain : Toolchain}
    (based : packageBase s = .ok base)
    (detected : Toolchain.detect m s.compiler.compiler = .ok toolchain) :
    FirstFails m s Check.all failure ↔ FirstFails m s Check.further failure :=
  (firstFails_of_ok (fun _ => packageBase_eq_error_iff) based).trans
    (firstFails_of_ok (fun _ => detect_eq_error_iff) detected)

/-- A set-up from nothing is one with the toolchain that is found, once the base is known to be an
identifier. -/
theorem setUp_cases (m : Machine) (chance : UInt64 → Draw) (s : HostSettings) :
    (∃ failure, setUp m chance s = (.error failure, m) ∧
        ∀ other, FirstFails m s Check.all other ↔ failure = other) ∨
      ∃ base toolchain, base.text = s.packageBase ∧
        setUp m chance s = ((equip m s toolchain).1.map fun host => (host, { base, chance }),
          (equip m s toolchain).2) ∧
        ∀ other, FirstFails m s Check.all other ↔ FirstFails m s Check.further other := by
  unfold setUp
  cases based : packageBase s with
  | error failure =>
    exact .inl ⟨failure, rfl, fun other =>
      firstFails_of_error (fun _ => packageBase_eq_error_iff) based⟩
  | ok base =>
    dsimp only [Bench.setUp]
    cases detected : Toolchain.detect m s.compiler.compiler with
    | error failure =>
      refine .inl ⟨failure, rfl, fun other => ?_⟩
      exact (firstFails_of_ok (fun _ => packageBase_eq_error_iff) based).trans
        (firstFails_of_error (fun _ => detect_eq_error_iff) detected)
    | ok toolchain =>
      refine .inr ⟨base, toolchain, packageBase_text based, ?_, fun other =>
        firstFails_all_iff based detected⟩
      dsimp only [equip]
      cases Bench.withToolchain m s.compiler toolchain with
      | error failure => rfl
      | ok made =>
        dsimp only
        rcases onBench_cases made.2 { source := s.template } made.1 s.retries with
          ⟨failure, -, same⟩ | ⟨template, -, -, same⟩
        · rw [same]
          rfl
        · rw [same]
          rfl

/-- What comes of putting a host on a bench on which nothing lies: it is there, with its template at
hand, or the template cannot be used and the scratch directory of the bench is gone. -/
structure Settled (m : Machine) (templates : TemplateStore) (bench : Bench)
    (result : Except Failure Host × Machine) : Prop where
  told : ∀ failure, result.1 = .error failure ↔
    templates.kept = none ∧ templates.source.template m.files = .error failure
  gone : ∀ failure, result.1 = .error failure →
    (∀ number, result.2.scratch? number =
      if number = bench.scratch then none else m.scratch? number) ∧
    result.2.attempts = m.attempts
  made : ∀ host, result.1 = .ok host →
    host.bench = bench ∧ result.2 = m ∧ result.2.scratch? bench.scratch = some ⟨bench.scratch, []⟩ ∧
      ∃ template, (templates.load m.files).1 = .ok template ∧ host.templates.kept = some template

theorem settled_onBench {bench : Bench} (empty : m.scratch? bench.scratch = some ⟨bench.scratch, []⟩)
    (templates : TemplateStore) (retries : UInt32) :
    Settled m templates bench (onBench m templates bench retries) := by
  rcases onBench_cases m templates bench retries with
    ⟨failure, failed, same⟩ | ⟨template, given, kept, same⟩
  · rw [same]
    exact
      { told := fun other => by
          rw [← load_eq_error_iff, failed, Except.error.injEq, Except.error.injEq]
        gone := fun _ _ => ⟨m.scratch?_closeScratch bench.scratch, rfl⟩
        made := nofun }
  · rw [same]
    exact
      { told := fun other => by
          rw [← load_eq_error_iff, given]
          exact ⟨nofun, nofun⟩
        gone := nofun
        made := fun host made => by
          cases made
          exact ⟨rfl, rfl, empty, template, given, kept⟩ }

/-- **Setting up a host is all or nothing.** For all settings, every compiler and whatever is among
the files: a set-up fails just in case a check does, with what the first such check finds wrong, and
then each scratch directory is as it was before, with no other one there. Otherwise the host has a
new and empty scratch directory, its template is at hand and its source of names has handed out none.
The compiler is called for no unit either way. The same holds of a host beside one that is there, and
of one that is put on an empty bench, whose scratch directory goes if the template cannot be used. -/
theorem setUp_exact (counted : m.Counted) (chance : UInt64 → Draw) (s : HostSettings) :
    AllOrNothing m (FirstFails m s Check.all)
        (fun made m' => New m s made.1 m' ∧ made.2.issued = 0 ∧ made.2.base.text = s.packageBase)
        (setUp m chance s) ∧
      (∀ host : Host, AllOrNothing m (FirstFails m s Check.further) (New m s) (host.beside m s)) ∧
      ∀ (m : Machine) (templates : TemplateStore) (bench : Bench) (retries : UInt32),
        m.scratch? bench.scratch = some ⟨bench.scratch, []⟩ →
          Settled m templates bench (onBench m templates bench retries) := by
  refine ⟨?_, allOrNothing_beside counted,
    fun m templates bench retries empty => settled_onBench empty templates retries⟩
  rcases setUp_cases m chance s with ⟨failure, same, first⟩ | ⟨base, toolchain, named, same, further⟩
  · rw [same]
    exact .nothing first ⟨rfl, rfl⟩ counted
  · obtain ⟨told, undone, made, counted'⟩ := allOrNothing_equip (s := s) counted toolchain
    rw [same]
    generalize equip m s toolchain = result at told undone made counted'
    obtain ⟨result, m'⟩ := result
    cases result with
    | error failure =>
      refine .nothing (fun other => ?_) (undone failure rfl) counted'
      rw [further, ← told, Except.error.injEq]
    | ok host =>
      refine .all (fun other => ?_) ⟨made host rfl, rfl, named⟩ counted'
      rw [further, ← told]
      nofun

/-- Three things are wrong, the level of optimization, that no scratch directory can be made, and the
template: the level is told. When it is mended the refusal is told, and where the machine does not
refuse, the template. The scratch directory of another host alone is there as before. -/
theorem setUp_of_absent :
    let m := (Machine.stocked fun _ _ => .unstarted .notFound).openScratch.2
    let full : Machine := { m with refusal? := fun _ _ => some .notFound }
    let chance : UInt64 → Draw := fun _ => ⟨0, 0⟩
    let mended : HostSettings := { HostSettings.stocked 0 with template := .file "/absent" }
    let s := { mended with compiler := { mended.compiler with optimization := 4 } }
    m.Counted ∧ m.scratches = [⟨0, []⟩] ∧
      (setUp full chance s).1 = .error (.configuration (.optimization 4)) ∧
      (setUp full chance mended).1 = .error (.system .notFound) ∧
      (setUp m chance mended).1 = .error (.templateMissing "/absent") ∧
      (setUp full chance s).2.scratches = [⟨0, []⟩] ∧
      (setUp full chance mended).2.scratches = [⟨0, []⟩] ∧
      (setUp m chance mended).2.scratches = [⟨0, []⟩] := by
  intro m full chance mended s
  have counted : m.Counted := by
    rintro t member
    obtain rfl := List.mem_singleton.1 member
    decide
  -- The first two checks pass on either machine.
  have based : packageBase s = .ok .default := packageBase_of_text rfl
  have based' : packageBase mended = .ok .default := packageBase_of_text rfl
  have level {m' : Machine} (other : Failure) : ¬Check.optimization.Fails m' mended other := by
    intro fails
    cases fails with
    | optimization high => exact absurd high (by decide)
  have parent {m' : Machine} (other : Failure) : ¬Check.scratchParent.Fails m' mended other := by
    intro fails
    cases fails with
    | scratchParent asked _ => cases asked
  have room (other : Failure) : ¬Check.scratch.Fails m mended other := by
    intro fails
    cases fails with
    | scratch refused => cases refused
  have first : FirstFails full s Check.all (.configuration (.optimization 4)) :=
    (firstFails_all_iff based rfl).2 (.here (.optimization (by decide)))
  have second : FirstFails full mended Check.all (.system .notFound) :=
    (firstFails_all_iff based' rfl).2 (.later level (.later parent (.here (.scratch rfl))))
  have third : FirstFails m mended Check.all (.templateMissing "/absent") :=
    (firstFails_all_iff based' rfl).2
      (.later level (.later parent (.later room (.here (.template rfl (.absent rfl))))))
  obtain ⟨told₁, undone₁, -⟩ := (setUp_exact (m := full) counted chance s).1
  obtain ⟨told₂, undone₂, -⟩ := (setUp_exact (m := full) counted chance mended).1
  obtain ⟨told₃, undone₃, -⟩ := (setUp_exact counted chance mended).1
  have failed₁ := (told₁ _).2 first
  have failed₂ := (told₂ _).2 second
  have failed₃ := (told₃ _).2 third
  exact ⟨counted, rfl, failed₁, failed₂, failed₃, (undone₁ _ failed₁).scratches,
    (undone₂ _ failed₂).scratches, (undone₃ _ failed₃).scratches⟩

end Host

end Plotter
