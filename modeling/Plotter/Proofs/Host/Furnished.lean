import Plotter.Proofs.Host.Quiet
import Plotter.Proofs.Machine.Scratch

/-!
# Furnished workshops

A workshop starts on a machine on which no host has worked, and hosts are set up in it one
after the other, each with a toolchain, settings and a template store of its own choice, all
with one source of names (`Workshop.Furnished`). The set-ups of `Host.setUp` and `Host.beside`
are of this kind.

A host that was set up has read its template, and keeps it: the workshop is `Workshop.Ready`.
From then on no request changes the hosts (`advance_steady`), so the answers to later requests
do not depend on the files from which the templates came.
-/

namespace Plotter

/-- No host has worked on the machine yet. -/
def Machine.Unused (m : Machine) : Prop := m.attempts = [] ∧ m.scratches = []

/-- A template that was given out is kept. -/
theorem TemplateStore.kept_load {s : TemplateStore} {files : Files} {template : Template}
    (h : (s.load files).1 = .ok template) : (s.load files).2.kept = some template := by
  unfold load at h ⊢
  cases kept : s.kept with
  | some t =>
    simp only [kept, Except.ok.injEq] at h ⊢
    exact congrArg some h
  | none =>
    simp only [kept] at h ⊢
    cases read : s.source.template files with
    | ok t =>
      simp only [read, Except.ok.injEq] at h ⊢
      exact congrArg some h
    | error failure => simp [read] at h

namespace Host

/-- A host on a bench has the template of a load that succeeded; the machine is as it was. -/
theorem of_onBench {m m' : Machine} {templates : TemplateStore} {bench : Bench} {retries : UInt32}
    {host : Host} (h : onBench m templates bench retries = (.ok host, m')) :
    m' = m ∧ host.bench = bench ∧ host.retries = retries ∧
      ∃ template, templates.load m.files = (.ok template, host.templates) ∧
        host.templates.kept = some template := by
  unfold onBench at h
  cases loaded : templates.load m.files with
  | mk result store =>
    cases result with
    | error failure => simp [loaded] at h
    | ok template =>
      simp only [loaded, Prod.mk.injEq, Except.ok.injEq] at h
      obtain ⟨rfl, rfl⟩ := h
      refine ⟨rfl, rfl, rfl, template, rfl, ?_⟩
      have given : (templates.load m.files).1 = .ok template := by rw [loaded]
      have kept := TemplateStore.kept_load given
      rwa [loaded] at kept

end Host

namespace Bench

/-- The way to a scratch directory is a matter of the files. -/
theorem of_makeParent {m m' : Machine} {parent : Option String}
    (made : makeParent m parent = .ok m') : ∃ files, m' = { m with files } := by
  unfold makeParent at made
  split at made
  · exact ⟨m.files, (Except.ok.inj made).symm⟩
  · split at made
    · rename_i files _
      exact ⟨files, (Except.ok.inj made).symm⟩
    · cases made

/-- A bench has a scratch directory of its own, which is new and empty. -/
theorem of_withToolchain {m m' : Machine} {settings : Settings} {toolchain : Toolchain}
    {bench : Bench} (h : withToolchain m settings toolchain = .ok (bench, m')) :
    bench.scratch = m.opened ∧ m'.opened = m.opened + 1 ∧
      m'.scratches = m.scratches ++ [{ number := m.opened }] ∧ m'.attempts = m.attempts ∧
      m'.tool = m.tool ∧ m'.clock = m.clock := by
  unfold withToolchain at h
  split at h
  · simp at h
  · cases made : makeParent m settings.scratchParent with
    | error failure => simp [made] at h
    | ok m₁ =>
      obtain ⟨files, rfl⟩ := of_makeParent made
      cases opened : Machine.openScratchIn { m with files } settings.scratchParent with
      | error fault => simp [made, opened] at h
      | ok scratch =>
        obtain ⟨-, rfl⟩ := Machine.openScratchIn_eq_ok_iff.1 opened
        simp only [made, opened, Machine.openScratch, Except.ok.injEq, Prod.mk.injEq] at h
        obtain ⟨rfl, rfl⟩ := h
        exact ⟨rfl, rfl, rfl, rfl, rfl, rfl⟩

end Bench

/-- What a host is made of that is set up. -/
theorem Host.of_setUp {m v : Machine} {settings : HostSettings} {chance : UInt64 → Draw} {host : Host}
    {names : NameSource} (created : setUp m chance settings = (.ok (host, names), v)) :
    ∃ base toolchain files, packageBase settings = .ok base ∧
      Toolchain.detect m settings.compiler.compiler = .ok toolchain ∧
      Bench.makeParent m settings.compiler.scratchParent = .ok { m with files } ∧
      names = { base, chance } ∧ v = (Machine.openScratch { m with files }).2 ∧
      host = ⟨⟨settings.compiler, toolchain, m.opened⟩,
        (({ source := settings.template } : TemplateStore).load files).2, settings.retries⟩ := by
  unfold setUp at created
  cases based : packageBase settings with
  | error failure => simp [based] at created
  | ok base =>
    simp only [based, Bench.setUp] at created
    cases detected : Toolchain.detect m settings.compiler.compiler with
    | error failure => simp [detected] at created
    | ok toolchain =>
      simp only [detected, Bench.withToolchain] at created
      split at created
      · cases (Prod.mk.inj created).1
      · rename_i bench made equipped
        split at equipped
        · cases equipped
        · cases parent : Bench.makeParent m settings.compiler.scratchParent with
          | error failure => simp [parent] at equipped
          | ok housed =>
            obtain ⟨files, rfl⟩ := Bench.of_makeParent parent
            simp only [parent] at equipped
            cases opened :
                Machine.openScratchIn { m with files } settings.compiler.scratchParent with
            | error fault => simp [opened] at equipped
            | ok scratch =>
              obtain ⟨-, rfl⟩ := Machine.openScratchIn_eq_ok_iff.1 opened
              simp only [opened, Except.ok.injEq, Prod.mk.injEq] at equipped
              obtain ⟨rfl, rfl⟩ := equipped
              refine ⟨base, toolchain, files, rfl, rfl, rfl, ?_⟩
              split at created
              · rename_i host' housed settled
                obtain ⟨rfl, bench, retries, template, loaded, -⟩ := of_onBench settled
                obtain ⟨⟨rfl, rfl⟩, rfl⟩ := by simpa using created
                refine ⟨rfl, rfl, ?_⟩
                obtain ⟨own, templates, count⟩ := host'
                obtain ⟨rfl, rfl⟩ : own = _ ∧ count = _ := ⟨bench, retries⟩
                exact congrArg (Host.mk _ · _) (congrArg Prod.snd loaded).symm
              · cases (Prod.mk.inj created).1

namespace Workshop

/-- Hosts that were set up one after the other on one machine with one source of names. -/
inductive Furnished : Workshop → Prop
  /-- No host was set up yet. -/
  | empty {m : Machine} {base : PackageBase} {chance : UInt64 → Draw} (unused : m.Unused) :
      Furnished { machine := m, names := { base, chance }, hosts := [] }
  /-- One more host is set up. -/
  | add {w : Workshop} {m m' : Machine} {settings : Settings} {toolchain : Toolchain}
      {bench : Bench} {templates : TemplateStore} {retries : UInt32} {host : Host}
      (furnished : Furnished w)
      (equipped : Bench.withToolchain w.machine settings toolchain = .ok (bench, m))
      (settled : Host.onBench m templates bench retries = (.ok host, m')) :
      Furnished { w with machine := m', hosts := w.hosts ++ [host] }

/-- The first host of a machine, set up as its settings say. -/
theorem furnished_setUp {m m' : Machine} {chance : UInt64 → Draw} {settings : HostSettings}
    {host : Host} {names : NameSource} (unused : m.Unused)
    (h : Host.setUp m chance settings = (.ok (host, names), m')) :
    Furnished { machine := m', names, hosts := [host] } := by
  unfold Host.setUp at h
  cases base : Host.packageBase settings with
  | error failure => simp [base] at h
  | ok base' =>
    simp only [base, Bench.setUp] at h
    cases detected : Toolchain.detect m settings.compiler.compiler with
    | error failure => simp [detected] at h
    | ok toolchain =>
      simp only [detected] at h
      cases equipped : Bench.withToolchain m settings.compiler toolchain with
      | error failure => simp [equipped] at h
      | ok made =>
        obtain ⟨bench, m₁⟩ := made
        simp only [equipped] at h
        cases settled : Host.onBench m₁ { source := settings.template } bench settings.retries with
        | mk result m₂ =>
          cases result with
          | error failure => simp [settled] at h
          | ok host' =>
            simp only [settled, Prod.mk.injEq, Except.ok.injEq] at h
            obtain ⟨⟨rfl, rfl⟩, rfl⟩ := h
            have empty : Furnished { machine := m, names := { base := base', chance }, hosts := [] } :=
              .empty unused
            exact empty.add equipped settled

/-- Another host beside one that is there. -/
theorem furnished_beside {w : Workshop} {m : Machine} {settings : HostSettings} {host other : Host}
    (furnished : w.Furnished) (h : host.beside w.machine settings = (.ok other, m)) :
    Furnished { w with machine := m, hosts := w.hosts ++ [other] } := by
  unfold Host.beside at h
  cases equipped : Bench.withToolchain w.machine settings.compiler host.bench.toolchain with
  | error failure => simp [equipped] at h
  | ok made => exact .add furnished equipped (by simpa [equipped] using h)

/-- Every host has read its template. -/
def Ready (w : Workshop) : Prop :=
  ∀ host ∈ w.hosts, ∃ template, host.templates.kept = some template

theorem Furnished.ready {w : Workshop} (h : w.Furnished) : w.Ready := by
  induction h with
  | empty => simp [Ready]
  | add furnished equipped settled ih =>
    intro host member
    rcases List.mem_append.1 member with old | new
    · exact ih host old
    · rw [List.mem_singleton.1 new]
      obtain ⟨-, -, -, template, -, kept⟩ := Host.of_onBench settled
      exact ⟨template, kept⟩

theorem Steady.ready {w w' : Workshop} (h : w.Steady w') (ready : w.Ready) : w'.Ready := by
  intro host member
  rw [h.hosts] at member
  exact ready host member

/-! ### Nothing was done yet -/

/-- Each host has a scratch directory of its own. -/
def Apart (w : Workshop) : Prop := (w.hosts.map fun host => host.bench.scratch).Nodup

theorem Apart.number_eq {w : Workshop} (h : w.Apart) {i j : Nat} {host other : Host}
    (first : w.hosts[i]? = some host) (second : w.hosts[j]? = some other)
    (same : host.bench.scratch = other.bench.scratch) : i = j := by
  have found : (w.hosts.map fun host => host.bench.scratch)[i]? = some host.bench.scratch := by
    rw [List.getElem?_map, first]
    rfl
  have found' : (w.hosts.map fun host => host.bench.scratch)[j]? = some host.bench.scratch := by
    rw [List.getElem?_map, second, same]
    rfl
  obtain ⟨bound, -⟩ := List.getElem?_eq_some_iff.1 found
  exact (List.getElem?_inj bound h).1 (found.trans found'.symm)

theorem Steady.apart {w w' : Workshop} (h : w.Steady w') (apart : w.Apart) : w'.Apart := by
  unfold Apart
  rw [h.hosts]
  exact apart

/-- No name was taken and no call made, no instance is there, and the scratch directories are empty,
one for each host. -/
structure Untouched (w : Workshop) : Prop where
  issued : w.names.issued = 0
  attempts : w.machine.attempts = []
  residents : w.residents = []
  empty : ∀ s ∈ w.machine.scratches, s.contents = []
  roomed : ∀ host ∈ w.hosts, host.bench.scratch < w.machine.opened ∧
    w.machine.hasScratch host.bench.scratch = true
  apart : w.Apart

theorem Furnished.untouched {w : Workshop} (h : w.Furnished) : w.Untouched := by
  induction h with
  | empty unused =>
    obtain ⟨attempts, scratches⟩ := unused
    exact ⟨rfl, attempts, rfl, by simp [scratches], by simp, by simp [Apart]⟩
  | @add w m m' settings toolchain bench templates retries host furnished equipped settled ih =>
    obtain ⟨rfl, bench', -, -⟩ := Host.of_onBench settled
    obtain ⟨new, opened, scratches, attempts, -, -⟩ := Bench.of_withToolchain equipped
    have stays (number : Nat) (there : w.machine.hasScratch number = true) :
        m'.hasScratch number = true := by
      simp only [Machine.hasScratch, Machine.scratch?, scratches, List.find?_append,
        Option.isSome_or] at there ⊢
      rw [there, Bool.true_or]
    refine ⟨ih.issued, attempts.trans ih.attempts, ih.residents, fun s member => ?_,
      fun other member => ?_, ?_⟩
    · rw [scratches] at member
      rcases List.mem_append.1 member with old | new
      · exact ih.empty s old
      · rw [List.mem_singleton.1 new]
    · rw [opened]
      rcases List.mem_append.1 member with old | added
      · obtain ⟨below, there⟩ := ih.roomed other old
        exact ⟨Nat.lt_succ_of_lt below, stays _ there⟩
      · rw [List.mem_singleton.1 added, bench', new]
        refine ⟨Nat.lt_succ_self _, ?_⟩
        simp [Machine.hasScratch, Machine.scratch?, scratches]
    · unfold Apart
      rw [List.map_append, List.nodup_append]
      refine ⟨ih.apart, by simp, ?_⟩
      intro number old number' added
      obtain ⟨other, member, rfl⟩ := List.mem_map.1 old
      rw [List.map_cons, List.map_nil, List.mem_singleton] at added
      rw [added, bench', new]
      exact Nat.ne_of_lt (ih.roomed other member).1

/-- No instance was made yet. -/
theorem Furnished.made {w : Workshop} (h : w.Furnished) : w.made = 0 := by
  induction h with
  | empty unused => rfl
  | add furnished equipped settled ih => exact ih

/-! ### Requests leave the hosts alone -/

variable {w : Workshop} {r : Request} {host : Host} {template : Template}

/-- A host that has its template takes fresh names and fills it in. -/
theorem prepare_eq (found : w.hosts[r.host]? = some host)
    (kept : host.templates.kept = some template) :
    w.prepare r host =
      (.ok (SourceUnit.fill template w.names.next.1 r.expression),
        { w with names := w.names.next.2 }) := by
  have same : w.hosts.set r.host host = w.hosts := by
    obtain ⟨bound, rfl⟩ := List.getElem?_eq_some_iff.1 found
    exact List.set_getElem_self bound
  simp only [prepare, TemplateStore.load_of_kept kept, same]

theorem attempt_steady (found : w.hosts[r.host]? = some host)
    (kept : host.templates.kept = some template) (retried : UInt32) :
    w.Steady (w.attempt r host retried).2 := by
  simp only [attempt, prepare_eq found kept]
  generalize SourceUnit.fill template w.names.next.1 r.expression = unit
  have called : w.machine.Steady (host.bench.call w.machine unit).2 :=
    ⟨rfl, rfl, rfl, Nat.le_succ _, List.suffix_cons ..⟩
  generalize host.bench.call w.machine unit = call at called
  have begun : w.Steady { w with names := w.names.next.2, machine := call.2 } := ⟨called, rfl⟩
  split
  · exact begun.trans (quiet_fail ..).steady
  · exact begun

/-- A step of a request leaves the hosts as they are. -/
theorem advance_steady (ready : w.Ready) (r : Request) (phase : Phase) :
    w.Steady (w.advance r phase).2 := by
  have step := w.advances r phase
  generalize w.advance r phase = next at step ⊢
  cases step with
  | stuck halted => exact .refl w
  | first found =>
    obtain ⟨template, kept⟩ := ready _ (List.mem_of_getElem? found)
    exact attempt_steady found kept 0
  | made found ended => exact ended.quiet.steady
  | @again _ _ _ failure _ found ended =>
    obtain ⟨template, kept⟩ := ready _ (List.mem_of_getElem? found)
    have noted := ended.quiet_note (.retrying failure)
    exact noted.steady.trans (attempt_steady (noted.hosts ▸ found) kept _)
  | failed found ended => exact (ended.quiet_fail r _).steady

end Workshop

/-! ### A bare workshop -/

/-- A template of nothing but placeholders. -/
def Template.bare : Template := ⟨"$packageName $unitName $expression", by decide +kernel⟩

/-- A host with that template. -/
def Host.bare (retries : UInt32) : Host where
  bench := ⟨{}, ⟨"/rustc", "", false⟩, 0⟩
  templates := { source := .builtin, kept := some Template.bare }
  retries

/-- A machine with nothing on it but a compiler that answers as it is told to. -/
def Machine.bare (respond : List Attempt → Call → Response) : Machine where
  files := { entries := [(["rustc"], .program)] }
  searchPath := ""
  tool := { version := (.exited 0, []), cranelift := false, respond }
  temporary := fun number => "/" ++ toString number

/-- That host alone on such a machine. -/
def Workshop.bare (respond : List Attempt → Call → Response) (retries : UInt32) : Workshop where
  machine := (Machine.bare respond).openScratch.2
  names := { base := .default, chance := fun _ => ⟨0, 0⟩ }
  hosts := [Host.bare retries]

theorem Workshop.furnished_bare (respond : List Attempt → Call → Response) (retries : UInt32) :
    (Workshop.bare respond retries).Furnished := by
  have unused : (Machine.bare respond).Unused := ⟨rfl, rfl⟩
  let names : NameSource := { base := .default, chance := fun _ => ⟨0, 0⟩ }
  have empty : Furnished { machine := .bare respond, names, hosts := [] } := .empty unused
  have equipped : Bench.withToolchain (.bare respond) {} ⟨"/rustc", "", false⟩ =
    .ok ((Host.bare retries).bench, (Machine.bare respond).openScratch.2) := rfl
  have settled : Host.onBench (Machine.bare respond).openScratch.2 (Host.bare retries).templates
    (Host.bare retries).bench retries =
      (.ok (Host.bare retries), (Machine.bare respond).openScratch.2) := rfl
  exact empty.add equipped settled

/-! ### A stocked machine -/

/-- That machine with that template in a file. -/
def Machine.stocked (respond : List Attempt → Call → Response) : Machine :=
  { Machine.bare respond with
    files := { entries := [(["rustc"], .program),
      (["template"], .file (Template.bare.text.toList.map fun c => UInt8.ofNat c.toNat) false)] } }

/-- Settings with which a host can be set up on it. -/
def HostSettings.stocked (retries : UInt32) : HostSettings where
  compiler := { compiler := some "/rustc" }
  template := .file "/template"
  retries

/-- The host that is set up. -/
def Host.stocked (retries : UInt32) : Host where
  bench := ⟨{ compiler := some "/rustc" }, ⟨"/rustc", "", false⟩, 0⟩
  templates := { source := .file "/template", kept := some Template.bare }
  retries

theorem Machine.unused_stocked (respond : List Attempt → Call → Response) :
    (Machine.stocked respond).Unused := ⟨rfl, rfl⟩

/-- The text of a base of package names is accepted as that base. -/
theorem Host.packageBase_of_text {s : HostSettings} {base : PackageBase}
    (own : s.packageBase = base.text) : packageBase s = .ok base := by
  have valid : PackageBase.ofText? base.text = some base := dif_pos base.valid
  simp only [packageBase, own, valid]

theorem Host.setUp_stocked (respond : List Attempt → Call → Response) (retries : UInt32)
    {chance : UInt64 → Draw} :
    Host.setUp (.stocked respond) chance (.stocked retries) =
      (.ok (.stocked retries, { base := .default, chance }),
        (Machine.stocked respond).openScratch.2) := by
  have base : packageBase (.stocked retries) = .ok .default := packageBase_of_text rfl
  have equipped : Bench.setUp (.stocked respond) (HostSettings.stocked retries).compiler =
    .ok ((Host.stocked retries).bench, (Machine.stocked respond).openScratch.2) := by rfl
  have settled : Host.onBench (Machine.stocked respond).openScratch.2
    { source := (HostSettings.stocked retries).template } (Host.stocked retries).bench retries =
      (.ok (Host.stocked retries), (Machine.stocked respond).openScratch.2) := by rfl
  have own : (HostSettings.stocked retries).retries = retries := rfl
  simp only [Host.setUp, base, equipped, own, settled]

end Plotter
