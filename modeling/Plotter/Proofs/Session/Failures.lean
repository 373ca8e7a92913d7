import Plotter.Proofs.Request.Residue
import Plotter.Proofs.Session.Capability
import Plotter.Proofs.Session.Traffic

/-!
# What a failed request leaves behind

A request that fails should leave the files in the scratch directory as they were. It does not if
its last run of the compiler left a file and did not end with success, or was killed because it did
not take its source: nobody removes that file. What stays of a run is `Compilation.residue`; the
files are as they were before just in case nothing stays of any run.

Other requests may go on in the meantime. What is at a place is then the request's doing only if
nobody else changed it (`Moment.Spares`). Nothing else happens while a request for which the user's
thread waits is pursued, or one for which the runtime waits that has nothing else to do
(`Session.Idle`).

## What is proved

* `FilesLeft.step`: what a step of a request does to the files that it has left so far.
* `Moment.filesLeft_after`: what a request has left at every moment.
* `sameFiles_of_leaves`, `Account.residue_eq_none_iff`: when there are the same files as before.
* `Moment.failures_exact`: what every request leaves that fails.

## Honest scope

Names are told apart by a serial number of 64 bits; what a request leaves is proved of machines whose
compiler was called no more than 2⁶⁴ times. Whatever an outside program does in a scratch directory
but for the library is not in the model.
-/

namespace Plotter

open Workshop (Furnished)

/-! ### Names that were given -/

theorem Machine.Named.mono {m m' : Machine} {names : NameSource} {file : String}
    (h : m.Named names file) (grows : m.attempts.length ≤ m'.attempts.length) :
    m'.Named names file := by
  obtain ⟨serial, early, given⟩ := h
  exact ⟨serial, Nat.lt_of_lt_of_le early grows, given⟩

/-- Which files are named is a matter of the serial numbers alone. -/
theorem Machine.named_congr {m : Machine} {names names' : NameSource} {file : String}
    (same : names.fileAt = names'.fileAt) : m.Named names file ↔ m.Named names' file := by
  unfold Named
  rw [same]

namespace Moment

variable {w : Workshop}

/-- Names have the same serial numbers at every moment. -/
theorem fileAt_after (w : Workshop) (events : List Event) :
    ((first w).after events).session.workshop.names.fileAt = w.names.fileAt := by
  obtain ⟨issued, called, traffic⟩ := Traffic.after w events
  rw [traffic.names_eq]
  rfl

/-- Nothing is at a place with a name that was not given. -/
theorem vacant_of_unnamed (furnished : w.Furnished) (events : List Event)
    (bound : ((first w).after events).session.workshop.machine.attempts.length ≤ UInt64.size)
    {p : Place}
    (unnamed : ¬((first w).after events).session.workshop.machine.Named w.names p.file) :
    ((first w).after events).session.workshop.machine.at? p = none := by
  by_contra something
  have ledger := ledger_after furnished events bound
  have named := Machine.Ledger.filed ledger p (Option.ne_none_iff_isSome.1 something)
  exact unnamed ((Machine.named_congr (fileAt_after w events)).1 named)

end Moment

/-! ### What a request has left so far -/

namespace Trial

/-- The compiler was started in a trial. -/
def Ran (t : Trial) : Prop := t.compilation.response.isStarted = true

/-- Where the library of a trial was to be put. -/
def place (t : Trial) (host : Host) : Place := host.bench.placeOf t.compilation.unit

end Trial

/-- What is in scratch directories once a request has gone through trials and come to a phase, when
nobody else changed what is at the places that were spared. -/
structure FilesLeft (host : Host) (names : NameSource) (start now : Machine) (spared : Place → Prop)
    (trials : List Trial) (phase : Phase) : Prop where
  /-- The trials have names that were not given before the request. -/
  named : ∀ t ∈ trials, t.Ran →
    now.Named names (t.place host).file ∧ ¬start.Named names (t.place host).file
  /-- So has the run for which the request waits, and no trial has them. -/
  fresh : ∀ retried c, phase = .compiling retried c →
    ¬start.Named names (host.bench.placeOf c.unit).file ∧
      ∀ t ∈ trials, t.Ran → t.place host ≠ host.bench.placeOf c.unit
  left : ∀ p, spared p → ∀ t ∈ trials, t.Ran → t.place host = p →
    now.at? p = t.compilation.residue
  same : ∀ p, spared p → (∀ t ∈ trials, t.Ran → t.place host ≠ p) →
    (∀ retried c, phase = .compiling retried c → host.bench.placeOf c.unit ≠ p) →
      now.at? p = start.at? p

namespace FilesLeft

variable {host : Host} {names : NameSource} {start now now' : Machine}
  {spared spared' : Place → Prop} {trials new : List Trial} {phase : Phase}

theorem begin (host : Host) (names : NameSource) (m : Machine) (spared : Place → Prop) :
    FilesLeft host names m m spared [] .queued where
  named := by simp
  fresh := by simp
  left := by simp
  same := fun _ _ _ _ => rfl

/-- Something else happens. -/
theorem aside (h : FilesLeft host names start now spared trials phase)
    (grows : now.attempts.length ≤ now'.attempts.length) (fewer : ∀ p, spared' p → spared p)
    (kept : ∀ p, spared' p → now'.at? p = now.at? p ∨
      ∃ retried c, phase = .compiling retried c ∧ host.bench.placeOf c.unit = p) :
    FilesLeft host names start now' spared' trials phase where
  named := fun t member ran => (h.named t member ran).imp_left fun given => given.mono grows
  fresh := h.fresh
  left := by
    rintro p spare t member ran rfl
    rcases kept _ spare with same | ⟨retried, c, compiling, own⟩
    · rw [same]
      exact h.left _ (fewer _ spare) t member ran rfl
    · exact absurd own.symm ((h.fresh retried c compiling).2 t member ran)
  same := by
    intro p spare others unowned
    rcases kept p spare with same | ⟨retried, c, compiling, own⟩
    · rw [same]
      exact h.same p (fewer p spare) others unowned
    · exact absurd own (unowned retried c compiling)

/-- **The request goes on by a step**, in which a trial ends if it waited for a run. -/
theorem step {w : Workshop} {r : Request} (h : FilesLeft host names start w.machine spared trials phase)
    (ready : w.Ready) (found : w.hosts[r.host]? = some host) (moves : phase.moves = true)
    (ended : ∀ t ∈ new, t.Ran → phase = .compiling t.retried t.compilation)
    (taken : ∀ retried c, phase = .compiling retried c → host.bench.Clear w.machine c ∧
      w.machine.Named names (host.bench.placeOf c.unit).file ∧
        ∃ t ∈ new, t.Ran ∧ t.compilation = c)
    (later : start.attempts.length ≤ w.machine.attempts.length)
    (grows : w.machine.attempts.length ≤ (w.advance r phase).2.machine.attempts.length)
    (next : ∀ counter c, (w.advance r phase).1 = .compiling counter c →
      ¬w.machine.Named names (host.bench.placeOf c.unit).file)
    (unmade : ∀ number unit warnings elapsed,
      (w.advance r phase).1 ≠ .done (.made number unit warnings elapsed)) :
    FilesLeft host names start (w.advance r phase).2.machine spared (trials ++ new)
      (w.advance r phase).1 := by
  have namedNow : ∀ t ∈ trials ++ new, t.Ran → w.machine.Named names (t.place host).file ∧
      ¬start.Named names (t.place host).file := by
    intro t member ran
    rcases List.mem_append.1 member with old | recent
    · exact h.named t old ran
    · have compiling := ended t recent ran
      exact ⟨(taken _ _ compiling).2.1, (h.fresh _ _ compiling).1⟩
  refine ⟨?_, ?_, ?_, ?_⟩
  · exact fun t member ran => (namedNow t member ran).imp_left fun given => given.mono grows
  · intro counter c begun
    have unnamed := next counter c begun
    refine ⟨fun given => unnamed (given.mono later), fun t member ran same => unnamed ?_⟩
    rw [← same]
    exact (namedNow t member ran).1
  · rintro p spare t member ran rfl
    rcases List.mem_append.1 member with old | recent
    · rw [Workshop.at?_advance_other ready found fun retried c compiling same =>
        (h.fresh retried c compiling).2 t old ran same.symm]
      exact h.left _ spare t old ran rfl
    · obtain rfl := ended t recent ran
      exact Workshop.at?_advance_own ready found moves (taken _ _ rfl).1 unmade
  · intro p spare others unowned
    have other : ∀ retried c, phase = .compiling retried c → host.bench.placeOf c.unit ≠ p := by
      intro retried c compiling
      obtain ⟨-, -, t, member, ran, rfl⟩ := taken retried c compiling
      exact others t (List.mem_append_right _ member) ran
    rw [Workshop.at?_advance_other ready found other]
    exact h.same p spare (fun t member => others t (List.mem_append_left _ member)) other

end FilesLeft

/-- The run for which a request waits was started. -/
theorem History.isStarted {r : Request} {host : Host} {turns : List (Workshop × Workshop)}
    {trials : List Trial} {retried : UInt32} {compilation : Compilation}
    (h : History r host turns trials (.compiling retried compilation)) :
    compilation.response.isStarted = true := by
  cases h with
  | compiling begun started => exact started

namespace Moment

variable {w : Workshop} {host : Host} {c : Client} {r : Request}

/-- Nobody but a client changes what is at a place: it stays as it is in every event but the client's
own turns, or is the place of the run for which the client waits. -/
def Spares (m : Moment) (host : Host) (c : Client) (later : List Event) (p : Place) : Prop :=
  ∀ before e after, later = before ++ e :: after → (m.after before).takesTurn c e = false →
    ((m.after before).react e).session.workshop.machine.at? p =
        (m.after before).session.workshop.machine.at? p ∨
      ∃ r retried compilation,
        (m.after before).standing? c = some (r, .compiling retried compilation) ∧
          host.bench.placeOf compilation.unit = p

theorem Spares.before {m : Moment} {later further : List Event} {p : Place}
    (h : m.Spares host c (later ++ further) p) : m.Spares host c later p := by
  intro before e after same
  exact h before e (after ++ further) (by rw [same]; simp)

/-- A client takes a turn, and a request leaves what stays of the run for which it waited. -/
theorem filesLeft_turn {m : Moment} {names : NameSource} {start : Machine} {spared : Place → Prop}
    {turns : List (Workshop × Workshop)} {trials : List Trial} {phase phase' : Phase} {w' : Workshop}
    (ledger : m.Ledger) (fileAt : m.session.workshop.names.fileAt = names.fileAt)
    (ready : m.session.workshop.Ready) (found : m.session.workshop.hosts[r.host]? = some host)
    (standing : m.standing? c = some (r, phase)) (moves : phase.moves = true)
    (clear : ∀ retried compilation, phase = .compiling retried compilation →
      host.bench.Clear m.session.workshop.machine compilation)
    (history : History r host turns trials phase)
    (files : FilesLeft host names start m.session.workshop.machine spared trials phase)
    (later : start.attempts.length ≤ m.session.workshop.machine.attempts.length)
    (stepped : m.session.workshop.advance r phase = (phase', w'))
    (grows : m.session.workshop.machine.attempts.length ≤ w'.machine.attempts.length)
    (bound : w'.machine.attempts.length ≤ UInt64.size)
    (unmade : ∀ number unit warnings elapsed,
      phase' ≠ .done (.made number unit warnings elapsed)) :
    ∃ new, History r host (turns ++ [(m.session.workshop, w')]) (trials ++ new) phase' ∧
      (∀ t ∈ new, t.Ran → t.resumed = m.session.workshop ∧
        phase = .compiling t.retried t.compilation) ∧
        FilesLeft host names start w'.machine spared (trials ++ new) phase' := by
  obtain ⟨template, kept⟩ := ready host (List.mem_of_getElem? found)
  obtain ⟨new, history', ended, taken⟩ := history.advance_trials moves found kept
  have fresh {counter : UInt32} {compilation : Compilation}
      (begun : (m.session.workshop.advance r phase).1 = .compiling counter compilation) :=
    Workshop.fresh_advance ledger ready found moves (by rwa [stepped]) begun
  have taken' (t : Trial) (member : t ∈ new) (ran : t.Ran) :
      phase = .compiling t.retried t.compilation := (ended t member ran).2
  have files' := files.step ready found moves taken'
    (fun retried compilation compiling => ?_) later (by rwa [stepped])
    (fun counter compilation begun given =>
      fresh begun ((Machine.named_congr fileAt).2 given)) (by rwa [stepped])
  · rw [stepped] at history' files'
    exact ⟨new, history', ended, files'⟩
  · subst compiling
    obtain ⟨t, member, same⟩ := taken retried compilation rfl
    obtain ⟨lands, among⟩ := mem_jobs_of_standing found standing
    have named := (Machine.named_congr fileAt).1 (Machine.Ledger.named ledger _ among)
    have ran : t.Ran := by
      rw [Trial.Ran, same]
      exact history.isStarted
    exact ⟨clear retried compilation rfl, named, t, member, ran, same⟩

/-- **What a request leaves, whatever else happens.** -/
theorem filesLeft_after (furnished : w.Furnished) (earlier later : List Event)
    (found : w.hosts[r.host]? = some host)
    (queued : ((first w).after earlier).standing? c = some (r, .queued))
    (lasts : c = .user → ∀ e ∈ later, e.isAsk = false)
    (held : ((first w).after earlier).session.holds r.host = true)
    (bound : (((first w).after earlier).after later).session.workshop.machine.attempts.length ≤
      UInt64.size) {phase : Phase}
    (now : (((first w).after earlier).after later).standing? c = some (r, phase))
    (unmade : ∀ number unit warnings elapsed, phase ≠ .done (.made number unit warnings elapsed)) :
    ∃ trials, History r host (turns c ((first w).after earlier) later) trials phase ∧
      (∀ t ∈ trials, ((first w).after earlier).TakenUp c later r t) ∧
        FilesLeft host w.names ((first w).after earlier).session.workshop.machine
          (((first w).after earlier).after later).session.workshop.machine
          (((first w).after earlier).Spares host c later) trials phase := by
  induction later using List.reverseRecOn generalizing phase with
  | nil =>
    obtain ⟨-, rfl⟩ := Prod.mk.inj (Option.some.inj (queued.symm.trans now))
    exact ⟨[], .queued, by simp, .begin ..⟩
  | append_singleton later e ih =>
    have grows := attempts_le_after furnished (earlier ++ later) [e]
    have begun := attempts_le_after furnished earlier later
    have numbered := numbered_after w (earlier ++ later)
    have steady := steady_after furnished (earlier ++ later)
    have fileAt := fileAt_after w (earlier ++ later)
    have ledger := ledger_after furnished (earlier ++ later)
    have lasts' : c = .user → ∀ e ∈ later, e.isAsk = false :=
      fun user e member => lasts user e (List.mem_append_left _ member)
    have clear (bound : _) {retried : UInt32} {compilation : Compilation} (standing :
        (((first w).after earlier).after later).standing? c =
          some (r, .compiling retried compilation)) :=
      clear_standing furnished earlier later found queued lasts' held bound standing
    rw [after_append] at grows numbered steady fileAt ledger
    rw [turns_append, turns_one]
    rw [after_append, after_cons, after_nil] at now bound ⊢
    have lastsNow : (((first w).after earlier).after later).Lasts e c :=
      lasts_after queued lasts rfl
    have spared (p : Place) (spares : ((first w).after earlier).Spares host c (later ++ [e]) p) :
        ((first w).after earlier).Spares host c later p := spares.before
    have alone (p : Place) (spares : ((first w).after earlier).Spares host c (later ++ [e]) p) :=
      spares later e [] rfl
    have takenUp {t : Trial} (resumed : t.Ran →
        t.resumed = (((first w).after earlier).after later).session.workshop ∧
          (((first w).after earlier).after later).standing? c =
            some (r, .compiling t.retried t.compilation)) :
        ((first w).after earlier).TakenUp c (later ++ [e]) r t :=
      fun ran => ⟨later, [e], rfl, resumed ran⟩
    generalize ((first w).after earlier).after later = m at *
    obtain ⟨phase₀, before, goes⟩ := goes_before numbered lastsNow now
    have unmade₀ : ∀ number unit warnings elapsed,
        phase₀ ≠ .done (.made number unit warnings elapsed) := by
      rintro number unit warnings elapsed rfl
      cases goes with
      | turn moves _ _ => cases moves
      | stay _ => exact unmade _ _ _ _ rfl
    obtain ⟨trials, history, taken, files⟩ := ih lasts' (Nat.le_trans grows bound) before unmade₀
    have old := fun t member => (taken t member).append [e]
    cases goes with
    | turn moves turn stepped =>
      rw [if_pos turn]
      obtain ⟨new, history', resumed, files'⟩ := filesLeft_turn (ledger (Nat.le_trans grows bound)) fileAt
        (steady.ready furnished.ready) (steady.hosts.symm ▸ found) before moves
        (fun _ _ compiling => clear (Nat.le_trans grows bound) (compiling ▸ before)) history files
        begun stepped grows bound unmade
      refine ⟨trials ++ new, history', fun t member => ?_,
        files'.aside (Nat.le_refl _) spared fun _ _ => .inl rfl⟩
      rcases List.mem_append.1 member with among | recent
      · exact old t among
      · refine takenUp fun ran => ?_
        obtain ⟨resumed, compiling⟩ := resumed t recent ran
        exact ⟨resumed, compiling ▸ before⟩
    | stay aside =>
      rw [aside, if_neg Bool.false_ne_true, List.append_nil]
      refine ⟨trials, history, old, files.aside grows spared fun p spares => ?_⟩
      refine (alone p spares aside).imp_right ?_
      rintro ⟨r', retried, compilation, standing, own⟩
      obtain ⟨-, rfl⟩ := Prod.mk.inj (Option.some.inj (before.symm.trans standing))
      exact ⟨retried, compilation, rfl, own⟩

end Moment

/-! ### Requests that nobody disturbs -/

namespace Moment

/-- From one moment to another the user's request is pursued, and nothing else happens. -/
def Pursues (m m' : Moment) : Prop := ∃ n, m.after (List.replicate n .pursue) = m'

theorem Pursues.refl (m : Moment) : Pursues m m := ⟨0, rfl⟩

theorem Pursues.step {s : Session} {r : Request} {phase : Phase} {m' : Moment}
    (h : Pursues ⟨{ s with workshop := (s.workshop.advance r phase).2 },
      some (r, (s.workshop.advance r phase).1)⟩ m') : Pursues ⟨s, some (r, phase)⟩ m' := by
  obtain ⟨n, same⟩ := h
  exact ⟨n + 1, same⟩

end Moment

namespace Session

open Moment (Pursues)

variable {s : Session} {r : Request} {phase : Phase}

/-- No background request goes on. -/
def Idle (s : Session) : Prop := ∀ t ∈ s.tasks, t.state.isFinished = true

theorem Idle.poll (idle : s.Idle) : s.poll = s := by
  have polled (ticket : Nat) : s.pollTask ticket = s := by
    unfold pollTask
    cases found : s.task? ticket with
    | none => rfl
    | some t =>
      have finished := idle t (mem_of_task? found)
      cases state : t.state with
      | live phase => cases phase <;> simp_all [TaskState.isFinished, Phase.isDone]
      | stopping phase => simp [state, TaskState.isFinished] at finished
      | superseded => simp [state]
  unfold Session.poll
  generalize s.tasks.map Task.ticket = tickets
  induction tickets with
  | nil => rfl
  | cons ticket tickets ih => rw [List.foldl_cons, polled, ih]

theorem Idle.dueBefore? (idle : s.Idle) (time : Nat) : s.dueBefore? time = none := by
  have due : s.tasks.filterMap Task.due? = [] := by
    rw [List.filterMap_eq_nil_iff]
    intro t member
    have finished := idle t member
    unfold Task.due?
    split
    · rename_i phase state
      cases phase <;> simp_all [TaskState.isFinished, Phase.isDone, Phase.due?]
    · rfl
  rw [Session.dueBefore?, due]
  rfl

theorem pursues_workshop (s : Session) (r : Request) (steps : Nat) (phase : Phase) :
    Pursues ⟨s, some (r, phase)⟩
      ⟨{ s with workshop := (Workshop.pursueFor r steps s.workshop phase).2 },
        some (r, (Workshop.pursueFor r steps s.workshop phase).1)⟩ := by
  induction steps generalizing s phase with
  | zero => exact .refl _
  | succ steps ih =>
    unfold Workshop.pursueFor
    split
    · exact .step (ih { s with workshop := (s.workshop.advance r phase).2 } _)
    · exact .refl _

theorem Idle.pursues (idle : s.Idle) (r : Request) (steps : Nat) (phase : Phase) :
    Pursues ⟨s, some (r, phase)⟩
      ⟨(s.pursueFor r steps phase).2, some (r, (s.pursueFor r steps phase).1)⟩ := by
  induction steps generalizing s phase with
  | zero => exact .refl _
  | succ steps ih =>
    unfold pursueFor
    split
    · exact .refl _
    · rw [idle.dueBefore?]
      have idle' : { s with workshop := (s.workshop.advance r phase).2 }.Idle := idle
      exact .step (ih idle' _)

/-- **A request that the user waits for is only pursued** if the user's thread waits too, or no
background request goes on. -/
theorem pursues_ending {waiting : Bool} (alone : waiting = false ∨ s.Idle) (r : Request) :
    Pursues ⟨s, some (r, .queued)⟩ ⟨(s.ending r waiting).2, some (r, (s.ending r waiting).1)⟩ := by
  cases waiting with
  | false => exact s.pursues_workshop r (s.workshop.stepBound r) .queued
  | true =>
    have idle : s.Idle := alone.resolve_left (by simp)
    have idle' : { s with workshop := (s.workshop.advance r .queued).2 }.Idle := idle
    simp only [ending, if_true]
    split
    · exact .step (.refl _)
    · rw [idle'.poll]
      exact .step (idle'.pursues r _ _)

end Session

/-! ### The files before and after -/

/-- There are the same files in a scratch directory of two machines. -/
def Machine.SameFiles (m m' : Machine) (number : Nat) : Prop :=
  ∃ files, m.fileNames number = some files ∧ ∃ files', m'.fileNames number = some files' ∧
    ∀ file, file ∈ files' ↔ file ∈ files

theorem Machine.sameFiles_iff {m m' : Machine} {number : Nat} (there : m.hasScratch number = true)
    (there' : m'.hasScratch number = true) :
    m.SameFiles m' number ↔
      ∀ file, (m'.at? ⟨number, file⟩).isSome = (m.at? ⟨number, file⟩).isSome := by
  rw [← fileNames_isSome] at there there'
  obtain ⟨files, listed⟩ := Option.isSome_iff_exists.1 there
  obtain ⟨files', listed'⟩ := Option.isSome_iff_exists.1 there'
  have mem (file : String) : file ∈ files ↔ (m.at? ⟨number, file⟩).isSome = true :=
    mem_of_fileNames (p := ⟨number, file⟩) listed
  have mem' (file : String) : file ∈ files' ↔ (m'.at? ⟨number, file⟩).isSome = true :=
    mem_of_fileNames (p := ⟨number, file⟩) listed'
  simp only [SameFiles, listed, listed', Option.some.injEq, exists_eq_left', mem, mem']
  exact forall_congr' fun file => Bool.eq_iff_iff.symm

/-- What a request that made no instance does to a place, from a machine to another. -/
structure Leaves (host : Host) (trials : List Trial) (m m' : Machine) (p : Place) : Prop where
  /-- Nothing was at the place of a run, and there stays what is not removed. -/
  own : ∀ t ∈ trials, t.Ran → t.place host = p →
    m.at? p = none ∧ m'.at? p = t.compilation.residue
  /-- Any other place is as it was. -/
  other : (∀ t ∈ trials, t.Ran → t.place host ≠ p) → m'.at? p = m.at? p

/-- **There are the same files as before** just in case nothing stays of any run. -/
theorem sameFiles_of_leaves {host : Host} {trials : List Trial} {m m' : Machine}
    (leaves : ∀ p, p.scratch = host.bench.scratch → Leaves host trials m m' p)
    (there : m.hasScratch host.bench.scratch = true)
    (there' : m'.hasScratch host.bench.scratch = true) :
    m.SameFiles m' host.bench.scratch ↔ ∀ t ∈ trials, t.compilation.residue = none := by
  rw [Machine.sameFiles_iff there there']
  constructor
  · intro same t member
    cases ran : t.compilation.response.isStarted with
    | false => exact Compilation.residue_of_unstarted ran
    | true =>
      obtain ⟨vacant, left⟩ := (leaves (t.place host) rfl).own t member ran rfl
      have unfilled := same (t.place host).file
      change (m'.at? (t.place host)).isSome = (m.at? (t.place host)).isSome at unfilled
      rw [vacant, left] at unfilled
      simpa using unfilled
  · intro nothing file
    by_cases own : ∃ t ∈ trials, t.Ran ∧ t.place host = ⟨host.bench.scratch, file⟩
    · obtain ⟨t, member, ran, same⟩ := own
      obtain ⟨vacant, left⟩ := (leaves _ rfl).own t member ran same
      rw [vacant, left, nothing t member]
    · rw [(leaves _ rfl).other fun t member ran same => own ⟨t, member, ran, same⟩]

/-- All trials of a request but its last could not load their libraries. -/
theorem Account.failsToLoad {r : Request} {host : Host} {turns : List (Workshop × Workshop)}
    {trials : List Trial} {last : Trial} {verdict : Verdict}
    (h : Account r host turns trials last verdict) :
    ∀ t ∈ trials, t = last ∨ t.failsToLoad = true := by
  obtain ⟨turns', init, final, begun, -, -, rfl, -⟩ := h.history.of_done
  obtain rfl : final = last := by simpa using h.isLast
  intro t member
  rcases List.mem_append.1 member with earlier | final
  · exact .inr (begun.failsToLoad t earlier)
  · exact .inl (List.mem_singleton.1 final)

/-- Nothing stays of the runs of a request just in case nothing stays of the last. -/
theorem Account.residue_eq_none_iff {r : Request} {host : Host} {turns : List (Workshop × Workshop)}
    {trials : List Trial} {last : Trial} {verdict : Verdict}
    (h : Account r host turns trials last verdict)
    (file : ∀ t ∈ trials, t.compilation.response.LeavesFile) :
    (∀ t ∈ trials, t.compilation.residue = none) ↔
      last.compilation.response.leavings = none ∨ last.compilation.response.Succeeds := by
  have member : last ∈ trials := List.mem_of_getLast? h.isLast
  rw [← Compilation.residue_eq_none_iff (file last member)]
  refine ⟨fun nothing => nothing last member, fun nothing t among => ?_⟩
  rcases h.failsToLoad t among with rfl | fails
  · exact nothing
  · have success := (h.sound t among).succeeds fails
    exact (Compilation.residue_eq_none_iff (file t among)).2 (.inr success)

namespace Moment

variable {w : Workshop} {host : Host} {c : Client} {r : Request}

/-- What comes of a request for the files, from a moment `m` on at which it is queued, through the
events `later`. -/
structure Aftermath (m : Moment) (r : Request) (host : Host) (c : Client) (later : List Event)
    (trials : List Trial) (last : Trial) (verdict : Verdict) : Prop where
  account : Account r host (turns c m later) trials last verdict
  /-- The request leaves what is not removed of its runs, and nothing else. -/
  leaves : ∀ p, m.Spares host c later p →
    Leaves host trials m.session.workshop.machine (m.after later).session.workshop.machine p
  /-- There are the same files as before just in case nothing stays. -/
  sameFiles : (∀ p, p.scratch = host.bench.scratch → m.Spares host c later p) →
    (m.after later).session.workshop.machine.hasScratch host.bench.scratch = true →
      (m.session.workshop.machine.SameFiles (m.after later).session.workshop.machine
          host.bench.scratch ↔ ∀ t ∈ trials, t.compilation.residue = none)
  /-- If no run left more than a file, that is so just in case the last left nothing or ended with
  success. -/
  cleared : (∀ t ∈ trials, t.compilation.response.LeavesFile) →
    ((∀ t ∈ trials, t.compilation.residue = none) ↔
      last.compilation.response.leavings = none ∨ last.compilation.response.Succeeds)

/-- **What a request that fails leaves**, whoever waits for it and whatever else happens. -/
theorem aftermath (furnished : w.Furnished) (earlier later : List Event)
    (found : w.hosts[r.host]? = some host)
    (queued : ((first w).after earlier).standing? c = some (r, .queued))
    (lasts : c = .user → ∀ e ∈ later, e.isAsk = false)
    (held : ((first w).after earlier).session.holds r.host = true)
    (bound : (((first w).after earlier).after later).session.workshop.machine.attempts.length ≤
      UInt64.size) {failure : Failure}
    (now : (((first w).after earlier).after later).standing? c =
      some (r, .done (.failed failure))) :
    ∃ trials last, ((first w).after earlier).Aftermath r host c later trials last
      (.failed failure) := by
  obtain ⟨trials, history, -, files⟩ :=
    filesLeft_after furnished earlier later found queued lasts held bound now (by simp)
  obtain ⟨last, account⟩ := history.account
  have begun := Nat.le_trans (attempts_le_after furnished earlier later) bound
  have leaves (p : Place) (spares : ((first w).after earlier).Spares host c later p) :
      Leaves host trials ((first w).after earlier).session.workshop.machine
        (((first w).after earlier).after later).session.workshop.machine p :=
    { own := by
        rintro t member ran rfl
        have vacant := vacant_of_unnamed furnished earlier begun (files.named t member ran).2
        exact ⟨vacant, files.left _ spares t member ran rfl⟩
      other := fun others => files.same p spares others (by simp) }
  refine ⟨trials, last, account, leaves, fun alone there => ?_, account.residue_eq_none_iff⟩
  exact sameFiles_of_leaves (fun p own => leaves p (alone p own))
    (hasScratch_of_holds furnished earlier found held) there

/-- Nobody else changes anything while a request is only pursued. -/
theorem spares_of_pursued {m : Moment} {later : List Event} (only : ∀ e ∈ later, e = .pursue)
    (p : Place) : m.Spares host .user later p := by
  intro before e after same idle
  obtain rfl : e = .pursue := only e (by simp [same])
  generalize m.after before = m' at idle ⊢
  left
  simp only [react]
  split
  · rfl
  · rename_i r phase awaited
    have stuck : phase.moves = false := by
      rw [takesTurn, standing?, awaited] at idle
      exact idle
    rw [Workshop.advance_of_stuck _ _ stuck]

/-- The scratch directories that were there are there after events that let go of nothing. -/
theorem sameRooms_after (furnished : w.Furnished) (earlier : List Event) {later : List Event}
    (kept : ∀ e ∈ later, e ≠ .reclaim) :
    ((first w).after earlier).session.workshop.SameRooms
      (((first w).after earlier).after later).session.workshop := by
  induction later using List.reverseRecOn with
  | nil => exact .refl _
  | append_singleton later e ih =>
    have steady := steady_after furnished (earlier ++ later)
    rw [after_append] at steady
    rw [after_append, after_cons, after_nil]
    exact (ih fun e member => kept e (List.mem_append_left _ member)).trans
      (sameRooms_react (steady.ready furnished.ready) (kept e (by simp)))

theorem eq_failed {e : Evaluation} (failed : e.isSuccess = false) :
    ∃ failure, e.verdict = .failed failure := by
  obtain ⟨expression, verdict⟩ := e
  cases verdict with
  | made => simp [Evaluation.isSuccess, Evaluation.failure?] at failed
  | failed failure => exact ⟨failure, rfl⟩

/-- A request for which the user waits, and which fails. -/
theorem aftermath_of_evaluate (furnished : w.Furnished) {earlier : List Event} {s s' : Session}
    (reached : (first w).after earlier = ⟨s, none⟩) (found : w.hosts[r.host]? = some host)
    (held : s.holds r.host = true) {failure : Failure} {later : List Event}
    (unasked : ∀ event ∈ later, event.isAsk = false)
    (pursued : (⟨s, some (r, .queued)⟩ : Moment).after later =
      ⟨s', some (r, .done (.failed failure))⟩)
    (bound : s'.workshop.machine.attempts.length ≤ UInt64.size) :
    ∃ trials last, Aftermath ⟨s, some (r, .queued)⟩ r host .user later trials last
      (.failed failure) := by
  have asked := reached_asked reached r
  have came := aftermath (c := .user) furnished (earlier ++ [.ask r]) later found
  rw [asked, pursued] at came
  exact came rfl (fun _ => unasked) held bound rfl

/-- **What a failed request leaves.** For every host and every compiler, in every session: a request
that fails leaves what is not removed of its runs, and nothing else, be it one for which the user
waits or one in the background. If a request for which the user waits is not disturbed, the files
in the scratch directory are those that were there before just in case nothing stays of any run. -/
theorem failures_exact (furnished : w.Furnished) (earlier : List Event)
    (found : w.hosts[r.host]? = some host) :
    (∀ s, (first w).after earlier = ⟨s, none⟩ → s.holds r.host = true → ∀ waiting e s',
      s.evaluate r waiting = (some e, s') → e.isSuccess = false →
      s'.workshop.machine.attempts.length ≤ UInt64.size →
        ∃ later trials last,
          (⟨s, some (r, .queued)⟩ : Moment).after later = ⟨s', some (r, .done e.verdict)⟩ ∧
            Aftermath ⟨s, some (r, .queued)⟩ r host .user later trials last e.verdict ∧
              (waiting = false ∨ s.Idle →
                (∀ p, Leaves host trials s.workshop.machine s'.workshop.machine p) ∧
                  (s.workshop.machine.SameFiles s'.workshop.machine host.bench.scratch ↔
                    ∀ t ∈ trials, t.compilation.residue = none))) ∧
      ∀ n later e, ((first w).after earlier).standing? (.task n) = some (r, .queued) →
        ((first w).after earlier).session.holds r.host = true →
        ((((first w).after earlier).after later).session.take n).1 = some (.ready e) →
        e.isSuccess = false →
        (((first w).after earlier).after later).session.workshop.machine.attempts.length ≤
          UInt64.size →
          ∃ trials last,
            ((first w).after earlier).Aftermath r host (.task n) later trials last e.verdict := by
  constructor
  · intro s reached held waiting e s' answered failed bound
    obtain ⟨failure, verdict⟩ := eq_failed failed
    obtain ⟨ended, -⟩ := Session.ending_of_evaluate answered
    by_cases alone : waiting = false ∨ s.Idle
    · obtain ⟨n, pursued⟩ := Session.pursues_ending alone r
      rw [ended, verdict] at pursued
      have only : ∀ e ∈ List.replicate n Event.pursue, e = .pursue :=
        fun e member => List.eq_of_mem_replicate member
      have unasked : ∀ e ∈ List.replicate n Event.pursue, e.isAsk = false :=
        fun e member => only e member ▸ rfl
      obtain ⟨trials, last, came⟩ :=
        aftermath_of_evaluate furnished reached found held unasked pursued bound
      have spared (p : Place) : (⟨s, some (r, .queued)⟩ : Moment).Spares host .user _ p :=
        spares_of_pursued only p
      have there : s.workshop.machine.hasScratch host.bench.scratch = true := by
        have there := hasScratch_of_holds furnished earlier found (by rw [reached]; exact held)
        rwa [reached] at there
      have kept : ∀ e ∈ List.replicate n Event.pursue, e ≠ .reclaim :=
        fun e member => only e member ▸ nofun
      have rooms := sameRooms_after furnished (earlier ++ [.ask r]) kept
      rw [reached_asked reached r] at rooms
      have there' := (rooms host.bench.scratch).trans there
      have leaves (p : Place) := came.leaves p (spared p)
      have sameFiles := came.sameFiles (fun p _ => spared p) there'
      rw [pursued] at leaves sameFiles
      rw [verdict]
      exact ⟨_, trials, last, pursued, came, fun _ => ⟨leaves, sameFiles⟩⟩
    · obtain ⟨later, unasked, pursued, -⟩ := pursued_of_evaluate answered
      rw [verdict] at pursued ⊢
      obtain ⟨trials, last, came⟩ :=
        aftermath_of_evaluate furnished reached found held unasked pursued bound
      exact ⟨later, trials, last, pursued, came, fun undisturbed => absurd undisturbed alone⟩
  · intro n later e queued held taken failed bound
    obtain ⟨failure, verdict⟩ := eq_failed failed
    obtain ⟨r', standing, -⟩ := standing?_of_take taken
    obtain ⟨rfl, -⟩ := history_after furnished earlier later found queued (by simp) standing
    rw [verdict] at standing ⊢
    exact aftermath furnished earlier later found queued (by simp) held bound standing

/-- A file that cannot be loaded is removed when the request fails: nothing is there, as before. -/
theorem files_of_flaky :
    let s : Session := { workshop := .bare flaky 0 }
    ∃ e s' later trials last, s.evaluate ⟨0, "x"⟩ false = (some e, s') ∧ e.isSuccess = false ∧
      Aftermath ⟨s, some (⟨0, "x"⟩, .queued)⟩ ⟨0, "x"⟩ (Host.bare 0) .user later trials last
        e.verdict ∧
        s.workshop.machine.SameFiles s'.workshop.machine 0 ∧
          ∀ t ∈ trials, t.compilation.residue = none := by
  intro s
  have failure : (s.evaluate ⟨0, "x"⟩ false).1.any (fun e => !e.isSuccess) = true := by
    decide +kernel
  have bound : (s.evaluate ⟨0, "x"⟩ false).2.workshop.machine.attempts.length ≤ UInt64.size := by
    decide +kernel
  have before : s.workshop.machine.fileNames 0 = some [] := by decide +kernel
  have after : (s.evaluate ⟨0, "x"⟩ false).2.workshop.machine.fileNames 0 = some [] := by
    decide +kernel
  obtain ⟨e, answer, failed⟩ := (Option.any_eq_true ..).1 failure
  have answered : s.evaluate ⟨0, "x"⟩ false = (some e, (s.evaluate ⟨0, "x"⟩ false).2) := by
    rw [← answer]
  obtain ⟨later, trials, last, -, came, undisturbed⟩ :=
    (failures_exact (Workshop.furnished_bare flaky 0) [] (r := ⟨0, "x"⟩) rfl).1 s rfl rfl false e _
      answered (by simpa using failed) bound
  have same : s.workshop.machine.SameFiles (s.evaluate ⟨0, "x"⟩ false).2.workshop.machine 0 :=
    ⟨[], before, [], after, by simp⟩
  exact ⟨e, _, later, trials, last, answered, by simpa using failed, came, same,
    (undisturbed (.inl rfl)).2.1 same⟩

/-- A compiler that always fails, and leaves a file. -/
def slovenly (_ : List Attempt) (_ : Call) : Response :=
  .started (.ended ⟨.exited 1, [], some .unloadable, 5⟩) none

/-- **A file of a failed request.** The compiler fails and leaves a file, which is not removed. -/
theorem file_of_slovenly :
    let s : Session := { workshop := .bare slovenly 0 }
    s.workshop.Furnished ∧ s.holds 0 = true ∧
      (∀ earlier call, (s.workshop.machine.tool.respond earlier call).LeavesFile) ∧
        ∃ e s', s.evaluate ⟨0, "x"⟩ false = (some e, s') ∧ e.isSuccess = false ∧
          ¬s.workshop.machine.SameFiles s'.workshop.machine 0 := by
  intro s
  have failure : (s.evaluate ⟨0, "x"⟩ false).1.any (fun e => !e.isSuccess) = true := by
    decide +kernel
  have before : s.workshop.machine.fileNames 0 = some [] := by decide +kernel
  have after : (s.evaluate ⟨0, "x"⟩ false).2.workshop.machine.fileNames 0 =
      some ["libfx_0_0000000000000000.so"] := by
    decide +kernel
  obtain ⟨e, answer, failed⟩ := (Option.any_eq_true ..).1 failure
  refine ⟨Workshop.furnished_bare slovenly 0, rfl, ?_, e, _, by rw [← answer],
    by simpa using failed, ?_⟩
  · rintro earlier call product left
    obtain rfl := Option.some.inj left
    rfl
  · rintro ⟨files, listed, files', listed', same⟩
    obtain rfl := Option.some.inj (before.symm.trans listed)
    obtain rfl := Option.some.inj (after.symm.trans listed')
    simpa using same "libfx_0_0000000000000000.so"

end Moment

end Plotter
