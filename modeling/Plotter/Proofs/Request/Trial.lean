import Plotter.Proofs.Host.Furnished

/-!
# The trials of a request

`Workshop.advance` is one step of a request, from one moment at which it waits to the next, and
between two steps anything may happen in the workshop: other requests go on, files change, time
passes. This module says what a request goes through whatever happens between its steps.

A request goes through *trials*. A trial begins when names are taken and the compiler is called
(`Start`), and ends when the host makes something of what came of the call (`Trial`). A trial
that could not load its library is followed at once by the next, as long as the number of
retries allows it (`Leadup`). A step of a request is a *turn*, given by the workshop before it
and the workshop after it; the first turn begins the first trial, and every other one ends a
trial and begins the next, or ends the last (`History`).

## What is proved

* `History.advance`: a step of a request leads from a history to a history, with one turn more.
* `History.length_trials`: the number of trials of a request that is at its end is the smaller of
  the number of retries and the number of leading failures to load, and one.
* `History.length_turns_le`: a request takes at most two turns more than it may take retries.
-/

namespace Plotter

/-- A trial that was begun. -/
structure Start where
  /-- How many trials came to nothing before. -/
  retried : UInt32
  /-- The workshop in which it began. -/
  before : Workshop
  compilation : Compilation
  /-- The workshop once the compiler was called. -/
  begun : Workshop

/-- A trial that ended. -/
structure Trial extends Start where
  /-- The workshop in which the host took up what came of the call. -/
  resumed : Workshop
  result : Except Failure Verdict
  /-- The workshop at its end. -/
  after : Workshop

namespace Start

/-- The attempt to call the compiler that a trial makes. -/
def attempt (s : Start) (host : Host) : Attempt :=
  ⟨host.bench.callFor s.before.machine s.compilation.unit, s.compilation.response.isStarted⟩

/-- A trial of a request begins: one fresh pair of names is taken, the template is filled in
with them, and there is one attempt to call the compiler. -/
structure Sound (s : Start) (r : Request) (host : Host) : Prop where
  filled : ∃ template, host.templates.kept = some template ∧
    s.compilation.unit = SourceUnit.fill template s.before.names.next.1 r.expression
  named : s.begun.names = s.before.names.next.2
  called : s.begun.machine.attempts = s.attempt host :: s.before.machine.attempts
  answered : s.compilation.response =
    s.before.machine.respond host.bench.toolchain.path
      (host.bench.callFor s.before.machine s.compilation.unit)

end Start

namespace Trial

/-- How the request ends if this is its last trial. -/
def verdict (t : Trial) : Verdict :=
  match t.result with
  | .ok verdict => verdict
  | .error failure => .failed failure

/-- What is left if this is the last trial of a request: a failure is noted. -/
def closed (t : Trial) (r : Request) : Workshop :=
  match t.result with
  | .ok _ => t.after
  | .error failure => t.after.noteFailure r.expression failure

/-- Whether the library could not be loaded. -/
def failsToLoad (t : Trial) : Bool :=
  match t.result with
  | .ok _ => false
  | .error failure => failure.isLoading

/-- A trial of a request ends: something is made of what came of the call, and nothing else. If
the compiler could not be started, this is at once. -/
structure Sound (t : Trial) (r : Request) (host : Host) : Prop extends
    t.toStart.Sound r host where
  ended : ∃ built machine,
    host.bench.finish? t.resumed.machine t.compilation = some (built, machine) ∧
      ({ t.resumed with machine } : Workshop).settle host t.compilation.unit built =
        (t.result, t.after)
  unnamed : t.after.names = t.resumed.names
  uncalled : t.after.machine.attempts = t.resumed.machine.attempts
  atOnce : t.compilation.response.isStarted = false → t.resumed = t.begun

end Trial

/-- A trial begins after others, each of which could not load its library. -/
inductive Leadup (r : Request) (host : Host) :
    List (Workshop × Workshop) → List Trial → Start → Prop
  /-- The first trial begins with the request. -/
  | first {s : Start} (sound : s.Sound r host) (uncounted : s.retried = 0) :
      Leadup r host [(s.before, s.begun)] [] s
  /-- A further one begins where the one before it ended, with a notice. -/
  | again {turns : List (Workshop × Workshop)} {trials : List Trial} {t : Trial} {s : Start}
      {fault : LoadFault} (earlier : Leadup r host turns trials t.toStart) (ended : t.Sound r host)
      (failed : t.result = .error (.loading fault)) (allowed : t.retried < host.retries)
      (sound : s.Sound r host) (next : s.before = t.after.note (.retrying (.loading fault)))
      (counted : s.retried = t.retried + 1) :
      Leadup r host (turns ++ [(t.resumed, s.begun)]) (trials ++ [t]) s

/-- The turns that a request took, the trials that it went through, and how far it has come. -/
inductive History (r : Request) (host : Host) :
    List (Workshop × Workshop) → List Trial → Phase → Prop
  /-- It has not begun. -/
  | queued : History r host [] [] .queued
  /-- It waits for the compiler. -/
  | compiling {turns : List (Workshop × Workshop)} {trials : List Trial} {s : Start}
      (begun : Leadup r host turns trials s) (started : s.compilation.response.isStarted = true) :
      History r host turns trials (.compiling s.retried s.compilation)
  /-- The compiler could not be started in the last trial, which ended in the turn in which it
  began. -/
  | unstarted {turns : List (Workshop × Workshop)} {trials : List Trial} {t : Trial} {w : Workshop}
      (begun : Leadup r host (turns ++ [(w, t.begun)]) trials t.toStart) (ended : t.Sound r host)
      (unstarted : t.compilation.response.isStarted = false) :
      History r host (turns ++ [(w, t.closed r)]) (trials ++ [t]) (.done t.verdict)
  /-- The last trial ended. -/
  | ended {turns : List (Workshop × Workshop)} {trials : List Trial} {t : Trial}
      (begun : Leadup r host turns trials t.toStart) (ended : t.Sound r host)
      (started : t.compilation.response.isStarted = true)
      (final : t.failsToLoad = true → ¬t.retried < host.retries) :
      History r host (turns ++ [(t.resumed, t.closed r)]) (trials ++ [t]) (.done t.verdict)

/-! ### Counting trials -/

namespace Leadup

variable {r : Request} {host : Host} {turns : List (Workshop × Workshop)} {trials : List Trial}
  {s : Start}

theorem sound (h : Leadup r host turns trials s) : s.Sound r host := by
  cases h with
  | first sound => exact sound
  | again _ _ _ _ sound => exact sound

/-- The counter counts the trials. It does not run over: it stays below the number of retries
while there are trials to come. -/
theorem retried_eq (h : Leadup r host turns trials s) :
    s.retried.toNat = trials.length ∧ trials.length ≤ host.retries.toNat := by
  induction h with
  | first _ uncounted => simp [uncounted]
  | again _ _ _ allowed _ _ counted ih =>
    obtain ⟨counter, -⟩ := ih
    rw [UInt32.lt_iff_toNat_lt] at allowed
    have := host.retries.toNat_lt
    rw [counted, UInt32.toNat_add, List.length_append, List.length_singleton]
    simp only [UInt32.toNat_one]
    omega

theorem failsToLoad (h : Leadup r host turns trials s) : ∀ t ∈ trials, t.failsToLoad = true := by
  induction h with
  | first => simp
  | again _ _ failed _ _ _ _ ih =>
    intro u member
    rcases List.mem_append.1 member with old | new
    · exact ih u old
    · rw [List.mem_singleton.1 new]
      simp [Trial.failsToLoad, failed, Failure.isLoading]

theorem sound_trials (h : Leadup r host turns trials s) : ∀ t ∈ trials, t.Sound r host := by
  induction h with
  | first => simp
  | again _ ended _ _ _ _ _ ih =>
    intro u member
    rcases List.mem_append.1 member with old | new
    · exact ih u old
    · rw [List.mem_singleton.1 new]
      exact ended

theorem retried_getElem? (h : Leadup r host turns trials s) :
    ∀ (i : Nat) (t : Trial), trials[i]? = some t → t.retried.toNat = i := by
  induction h with
  | first => simp
  | again earlier _ _ _ _ _ _ ih =>
    intro i u found
    rw [List.getElem?_append] at found
    split at found
    · exact ih i u found
    · rw [List.getElem?_singleton] at found
      split at found
      · rw [← Option.some.inj found, earlier.retried_eq.1]
        omega
      · simp at found

theorem length_turns (h : Leadup r host turns trials s) : turns.length = trials.length + 1 := by
  induction h with
  | first => rfl
  | again _ _ _ _ _ _ _ ih => simp [ih]

end Leadup

/-! ### Beginning a trial -/

/-- A call takes a millisecond and is kept on record, and nothing else changes. -/
theorem Bench.call_eq (b : Bench) (m : Machine) (unit : SourceUnit) :
    b.call m unit =
      (⟨unit, m.respond b.toolchain.path (b.callFor m unit), m.clock + 1⟩,
        { m with
          clock := m.clock + 1
          attempts := ⟨b.callFor m unit,
            (m.respond b.toolchain.path (b.callFor m unit)).isStarted⟩ :: m.attempts }) := rfl

namespace Workshop

/-- What begins in a workshop when a host attempts a request. -/
def commence (w : Workshop) (r : Request) (host : Host) (template : Template) (retried : UInt32) :
    Start :=
  let unit := SourceUnit.fill template w.names.next.1 r.expression
  let called := host.bench.call w.machine unit
  { retried, before := w, compilation := called.1
    begun := { w with names := w.names.next.2, machine := called.2 } }

variable {w : Workshop} {r : Request} {host : Host} {template : Template}

theorem commence_sound (kept : host.templates.kept = some template) (retried : UInt32) :
    (w.commence r host template retried).Sound r host where
  filled := ⟨template, kept, rfl⟩
  named := rfl
  called := by simp only [commence, Start.attempt, Bench.call_eq]
  answered := by simp only [commence, Bench.call_eq]

/-- An attempt is the beginning of a trial. Where the compiler cannot be started, it is the end
of the request too. -/
theorem attempt_eq (found : w.hosts[r.host]? = some host)
    (kept : host.templates.kept = some template) (retried : UInt32) :
    w.attempt r host retried =
      match (w.commence r host template retried).compilation.response with
      | .unstarted fault =>
        (w.commence r host template retried).begun.fail r
          (.toolchain (.unstartable host.bench.toolchain.path fault))
      | .started .. =>
        (.compiling retried (w.commence r host template retried).compilation,
          (w.commence r host template retried).begun) := by
  cases answer :
      (host.bench.call w.machine (SourceUnit.fill template w.names.next.1 r.expression)).1.response <;>
    simp [attempt, prepare_eq found kept, commence, answer]

/-- Nothing is waited for where the compiler was not started. -/
theorem finish?_of_unstarted {retried : UInt32} {fault : SystemFault}
    (h : (w.commence r host template retried).compilation.response = .unstarted fault) :
    host.bench.finish? (w.commence r host template retried).begun.machine
        (w.commence r host template retried).compilation =
      some (.error (.toolchain (.unstartable host.bench.toolchain.path fault)),
        (w.commence r host template retried).begun.machine) := by
  have clock : (w.commence r host template retried).begun.machine.clock =
      (w.commence r host template retried).compilation.began := by
    simp only [commence, Bench.call_eq]
  simp [Bench.finish?, Compilation.due?, h, Machine.waitUntil, ← clock]

end Workshop

/-! ### Turns -/

/-- A request that can go no further stays as it is. -/
theorem Workshop.advance_of_stuck (w : Workshop) (r : Request) {phase : Phase}
    (stuck : phase.moves = false) : w.advance r phase = (phase, w) := by
  unfold advance
  split
  · rfl
  · rename_i host _
    cases phase with
    | queued => simp [Phase.moves] at stuck
    | done verdict => rfl
    | compiling retried c =>
      have endless : host.bench.finish? w.machine c = none := by
        rw [Bench.finish?_eq_none]
        simpa [Phase.moves] using stuck
      simp only [advanceOn, endless]

namespace History

variable {r : Request} {host : Host} {template : Template} {turns : List (Workshop × Workshop)}
  {trials : List Trial} {phase : Phase} {w : Workshop}

/-- An attempt, in a turn that took the request up in a workshop `w`. -/
theorem of_attempt {v : Workshop} {retried : UInt32} (found : v.hosts[r.host]? = some host)
    (kept : host.templates.kept = some template)
    (begun : Leadup r host (turns ++ [(w, (v.commence r host template retried).begun)]) trials
      (v.commence r host template retried)) :
    ∃ new, History r host (turns ++ [(w, (v.attempt r host retried).2)]) (trials ++ new)
      (v.attempt r host retried).1 ∧ ∀ u ∈ new, u.compilation.response.isStarted = false := by
  rw [Workshop.attempt_eq found kept]
  cases answer : (v.commence r host template retried).compilation.response with
  | started course killed =>
    refine ⟨[], ?_, by simp⟩
    rw [List.append_nil]
    exact .compiling begun (by rw [answer]; rfl)
  | unstarted fault =>
    let t : Trial :=
      { v.commence r host template retried with
        resumed := (v.commence r host template retried).begun
        result := .error (.toolchain (.unstartable host.bench.toolchain.path fault))
        after := (v.commence r host template retried).begun }
    have ended : t.Sound r host :=
      { Workshop.commence_sound kept retried with
        ended := ⟨_, _, Workshop.finish?_of_unstarted answer, rfl⟩
        unnamed := rfl
        uncalled := rfl
        atOnce := fun _ => rfl }
    have unstarted : t.compilation.response.isStarted = false :=
      congrArg Response.isStarted answer
    exact ⟨[t], .unstarted (t := t) begun ended unstarted, by simpa using unstarted⟩

/-- What the end of a trial makes of its request. -/
theorem of_trial {t : Trial} (found : t.after.hosts[r.host]? = some host)
    (kept : host.templates.kept = some template) (begun : Leadup r host turns trials t.toStart)
    (ended : t.Sound r host) (started : t.compilation.response.isStarted = true) :
    ∃ new,
      History r host
        (turns ++ [(t.resumed, (t.after.conclude r host t.retried t.result).2)])
        (trials ++ t :: new) (t.after.conclude r host t.retried t.result).1 ∧
          ∀ u ∈ new, u.compilation.response.isStarted = false := by
  cases result : t.result with
  | ok verdict =>
    have last := History.ended begun ended started (by simp [Trial.failsToLoad, result])
    simp only [Trial.closed, Trial.verdict, result] at last
    exact ⟨[], last, by simp⟩
  | error failure =>
    simp only [Workshop.conclude]
    by_cases again : (failure.isLoading && decide (t.retried < host.retries)) = true
    · rw [if_pos again]
      rw [Bool.and_eq_true, decide_eq_true_iff] at again
      obtain ⟨loading, allowed⟩ := again
      cases failure with
      | loading fault =>
        have sound := Workshop.commence_sound (w := t.after.note (.retrying (.loading fault)))
          (r := r) kept (t.retried + 1)
        obtain ⟨new, history, unstarted⟩ :=
          of_attempt (v := t.after.note (.retrying (.loading fault))) found kept
            (.again begun ended result allowed sound rfl rfl)
        rw [List.append_assoc, List.singleton_append] at history
        exact ⟨new, history, unstarted⟩
      | _ => simp [Failure.isLoading] at loading
    · rw [if_neg again]
      have last := History.ended begun ended started (by
        intro fails allowed
        simp only [Trial.failsToLoad, result] at fails
        exact again (by simp [fails, allowed]))
      simp only [Trial.closed, Trial.verdict, result] at last
      exact ⟨[], last, by simp⟩

/-- **A step of a request leads from a history to a history.** A step that can be taken is one
turn more. If the request waited for a run, a trial of that run ended in the step, and no other trial
of a run did. -/
theorem advance_trials (h : History r host turns trials phase) (moves : phase.moves = true)
    (found : w.hosts[r.host]? = some host) (kept : host.templates.kept = some template) :
    ∃ new, History r host (turns ++ [(w, (w.advance r phase).2)]) (trials ++ new)
      (w.advance r phase).1 ∧
        (∀ t ∈ new, t.compilation.response.isStarted = true →
          t.resumed = w ∧ phase = .compiling t.retried t.compilation) ∧
        ∀ retried c, phase = .compiling retried c → ∃ t ∈ new, t.compilation = c := by
  simp only [Workshop.advance, found]
  cases h with
  | queued =>
    have begun : Leadup r host ([] ++ [(w, (w.commence r host template 0).begun)]) []
        (w.commence r host template 0) :=
      .first (Workshop.commence_sound kept 0) rfl
    obtain ⟨new, history, unstarted⟩ := of_attempt found kept begun
    refine ⟨new, history, fun t member started => ?_, by simp⟩
    simp [unstarted t member] at started
  | unstarted => simp [Phase.moves] at moves
  | ended => simp [Phase.moves] at moves
  | @compiling _ _ s begun started =>
    simp only [Workshop.advanceOn]
    cases finished : host.bench.finish? w.machine s.compilation with
    | none =>
      rw [Bench.finish?_eq_none] at finished
      simp [Phase.moves, finished] at moves
    | some ended =>
      obtain ⟨built, machine⟩ := ended
      have quiet := Workshop.quiet_end finished
      generalize settled :
        ({ w with machine } : Workshop).settle host s.compilation.unit built = end' at quiet
      obtain ⟨result, after⟩ := end'
      let t : Trial := { s with resumed := w, result, after }
      have ended : t.Sound r host :=
        { begun.sound with
          ended := ⟨built, machine, finished, settled⟩
          unnamed := quiet.names
          uncalled := quiet.machine.attempts
          atOnce := fun unstarted => Bool.noConfusion (started.symm.trans unstarted) }
      simp only [settled]
      obtain ⟨new, history, unstarted⟩ :=
        of_trial (t := t) (quiet.hosts ▸ found) kept begun ended started
      refine ⟨t :: new, history, fun u member => ?_, fun retried c same => ?_⟩
      · rcases List.mem_cons.1 member with rfl | later
        · exact fun _ => ⟨rfl, rfl⟩
        · exact fun started' => by simp [unstarted u later] at started'
      · exact ⟨t, List.mem_cons_self .., (Phase.compiling.inj same).2⟩

theorem advance (h : History r host turns trials phase) (moves : phase.moves = true)
    (found : w.hosts[r.host]? = some host) (kept : host.templates.kept = some template) :
    ∃ trials', History r host (turns ++ [(w, (w.advance r phase).2)]) trials'
      (w.advance r phase).1 := by
  obtain ⟨new, history, -⟩ := h.advance_trials moves found kept
  exact ⟨_, history⟩

/-! ### Counting -/

/-- A request that is at its end had a last trial, which says how it ended. -/
theorem of_done {verdict : Verdict} (h : History r host turns trials (.done verdict)) :
    ∃ turns' init last, Leadup r host turns' init last.toStart ∧ last.Sound r host ∧
      (last.failsToLoad = true → ¬last.retried < host.retries) ∧
      trials = init ++ [last] ∧ verdict = last.verdict := by
  cases h with
  | ended begun ended started final => exact ⟨_, _, _, begun, ended, final, rfl, rfl⟩
  | @unstarted turns' init last w begun ended unstarted =>
    refine ⟨_, _, _, begun, ended, ?_, rfl, rfl⟩
    obtain ⟨built, machine, finished, settled⟩ := ended.ended
    cases answer : last.compilation.response with
    | started course killed => simp [answer, Response.isStarted] at unstarted
    | unstarted fault =>
      simp only [Bench.finish?, answer, Option.some.injEq, Prod.mk.injEq] at finished
      rw [← finished.1, Workshop.settle] at settled
      have result : last.result = _ := (congrArg Prod.fst settled).symm
      simp [Trial.failsToLoad, result, Failure.isLoading]

/-- **The number of trials.** A request that is at its end went through one trial more than the
smaller of the number of retries and the number of leading failures to load. -/
theorem length_trials {verdict : Verdict} (h : History r host turns trials (.done verdict)) :
    trials.length = min host.retries.toNat (trials.takeWhile Trial.failsToLoad).length + 1 := by
  obtain ⟨turns', init, last, begun, -, final, rfl, -⟩ := h.of_done
  obtain ⟨counter, bound⟩ := begun.retried_eq
  have leading : (init ++ [last]).takeWhile Trial.failsToLoad =
      init ++ [last].takeWhile Trial.failsToLoad :=
    List.takeWhile_append_of_pos begun.failsToLoad
  rw [leading, List.length_append, List.length_append, List.length_singleton]
  cases fails : last.failsToLoad with
  | false => simp [fails, Nat.min_eq_right bound]
  | true =>
    have exhausted := final fails
    rw [UInt32.lt_iff_toNat_lt] at exhausted
    simp only [List.takeWhile_cons, fails, if_true, List.takeWhile_nil, List.length_singleton]
    omega

/-- A request takes at most two turns more than it may take retries: there is one to begin with
each trial, and one to end the last. -/
theorem length_turns_le (h : History r host turns trials phase) :
    turns.length ≤ host.retries.toNat + 2 ∧
      (phase.isDone = false → turns.length ≤ host.retries.toNat + 1) := by
  cases h with
  | queued => simp
  | compiling begun _ =>
    have := begun.retried_eq.2
    rw [begun.length_turns]
    omega
  | unstarted begun _ _ =>
    have := begun.retried_eq.2
    have length := begun.length_turns
    rw [List.length_append, List.length_singleton] at length ⊢
    exact ⟨by omega, fun h => by simp [Phase.isDone] at h⟩
  | ended begun _ _ _ =>
    have := begun.retried_eq.2
    rw [List.length_append, List.length_singleton, begun.length_turns]
    exact ⟨by omega, fun h => by simp [Phase.isDone] at h⟩

/-- All trials are sound. -/
theorem sound_trials (h : History r host turns trials phase) : ∀ t ∈ trials, t.Sound r host := by
  have all {turns : List (Workshop × Workshop)} {init : List Trial} {t : Trial}
      (begun : Leadup r host turns init t.toStart) (ended : t.Sound r host) :
      ∀ u ∈ init ++ [t], u.Sound r host := by
    intro u member
    rcases List.mem_append.1 member with old | new
    · exact begun.sound_trials u old
    · rw [List.mem_singleton.1 new]
      exact ended
  cases h with
  | queued => simp
  | compiling begun _ => exact begun.sound_trials
  | unstarted begun ended _ => exact all begun ended
  | ended begun ended _ _ => exact all begun ended

end History

/-! ### One turn right after the other -/

/-- Turns that lead from one workshop to another, with nothing between them. -/
def Unbroken (w : Workshop) : List (Workshop × Workshop) → Workshop → Prop
  | [], w' => w = w'
  | (before, after) :: turns, w' => w = before ∧ Unbroken after turns w'

theorem unbroken_concat {w w' before after : Workshop} {turns : List (Workshop × Workshop)} :
    Unbroken w (turns ++ [(before, after)]) w' ↔ Unbroken w turns before ∧ after = w' := by
  induction turns generalizing w with
  | nil => rfl
  | cons turn turns ih => simp only [List.cons_append, Unbroken, ih, and_assoc]

/-- Turns that lead from one workshop to another, with nothing between them that asks anything of the
compiler. -/
def Linked (w : Workshop) : List (Workshop × Workshop) → Workshop → Prop
  | [], w' => w.Quiet w'
  | (before, after) :: turns, w' => w.Quiet before ∧ Linked after turns w'

theorem linked_concat {w w' before after : Workshop} {turns : List (Workshop × Workshop)} :
    Linked w (turns ++ [(before, after)]) w' ↔ Linked w turns before ∧ after.Quiet w' := by
  induction turns generalizing w with
  | nil => rfl
  | cons turn turns ih => simp only [List.cons_append, Linked, ih, and_assoc]

theorem Linked.quiet {w w' w'' : Workshop} {turns : List (Workshop × Workshop)}
    (h : Linked w turns w') (quiet : w'.Quiet w'') : Linked w turns w'' := by
  induction turns generalizing w with
  | nil => exact Workshop.Quiet.trans h quiet
  | cons turn turns ih => exact ⟨h.1, ih h.2⟩

theorem Unbroken.linked {w w' : Workshop} {turns : List (Workshop × Workshop)}
    (h : Unbroken w turns w') : Linked w turns w' := by
  induction turns generalizing w with
  | nil =>
    obtain rfl : w = w' := h
    exact .refl w
  | cons turn turns ih =>
    obtain ⟨rfl, rest⟩ := h
    exact ⟨.refl _, ih rest⟩

/-- From one workshop to another, `trials` were made and nothing else: each took one pair of
names and called the compiler once. -/
structure Spent (host : Host) (w w' : Workshop) (trials : List Start) : Prop where
  names : w'.names = { w.names with issued := w.names.issued + UInt64.ofNat trials.length }
  attempts : w'.machine.attempts =
    (trials.map fun t => t.attempt host).reverse ++ w.machine.attempts

namespace Spent

variable {r : Request} {host : Host} {w w' w'' : Workshop} {trials : List Start}

theorem refl (host : Host) (w : Workshop) : Spent host w w [] := ⟨by simp, rfl⟩

theorem quiet (h : Spent host w w' trials) (quiet : w'.Quiet w'') : Spent host w w'' trials :=
  ⟨quiet.names.trans h.names, quiet.machine.attempts.trans h.attempts⟩

theorem begin {s : Start} (h : Spent host w s.before trials) (sound : s.Sound r host) :
    Spent host w s.begun (trials ++ [s]) where
  names := by
    rw [sound.named, NameSource.next, h.names, List.length_append, List.length_singleton,
      UInt64.ofNat_add, ← UInt64.add_assoc]
    rfl
  attempts := by simp [sound.called, h.attempts]

end Spent

/-- Whatever a trial ends with, its end is quiet. -/
theorem Trial.Sound.quiet {t : Trial} {r : Request} {host : Host} (h : t.Sound r host) :
    t.resumed.Quiet t.after := by
  obtain ⟨built, machine, finished, settled⟩ := h.ended
  have quiet := Workshop.quiet_end finished
  rwa [settled] at quiet

theorem Trial.quiet_closed (t : Trial) (r : Request) : t.after.Quiet (t.closed r) := by
  unfold closed
  split
  · exact .refl _
  · exact Workshop.quiet_noteFailure ..

/-- Where nothing is asked of the compiler between the turns, nothing is spent but by the trials. -/
theorem Leadup.spent_of_linked {r : Request} {host : Host} {turns : List (Workshop × Workshop)}
    {trials : List Trial} {s : Start} {w w' : Workshop} (h : Leadup r host turns trials s)
    (linked : Linked w turns w') :
    s.begun.Quiet w' ∧ Spent host w w' (trials.map Trial.toStart ++ [s]) := by
  induction h generalizing w' with
  | first sound _ =>
    obtain ⟨before, after⟩ := linked
    exact ⟨after, (((Spent.refl host _).quiet before).begin sound).quiet after⟩
  | @again turns trials t s fault _ ended _ _ sound next _ ih =>
    obtain ⟨linked, after⟩ := linked_concat.1 linked
    have spent := (ih linked).2.quiet
      (ended.quiet.trans (t.after.quiet_note (.retrying (.loading fault))))
    rw [← next] at spent
    exact ⟨after, by simpa using (spent.begin sound).quiet after⟩

/-- Where nothing comes between the turns, the last is the one in which the last trial began. -/
theorem Leadup.spent {r : Request} {host : Host} {turns : List (Workshop × Workshop)}
    {trials : List Trial} {s : Start} {w w' : Workshop} (h : Leadup r host turns trials s)
    (unbroken : Unbroken w turns w') :
    w' = s.begun ∧ Spent host w w' (trials.map Trial.toStart ++ [s]) := by
  refine ⟨?_, (h.spent_of_linked unbroken.linked).2⟩
  cases h with
  | first => exact unbroken.2.symm
  | again => exact (unbroken_concat.1 unbroken).2.symm

/-- A request that is pursued to its end without anything between its turns spends what its
trials do. -/
theorem History.spent {r : Request} {host : Host} {turns : List (Workshop × Workshop)}
    {trials : List Trial} {verdict : Verdict} {w w' : Workshop}
    (h : History r host turns trials (.done verdict)) (unbroken : Unbroken w turns w') :
    Spent host w w' (trials.map Trial.toStart) := by
  cases h with
  | @unstarted turns trials t v begun ended unstarted =>
    obtain ⟨linked, rfl⟩ := unbroken_concat.1 unbroken
    have spent := (begun.spent (unbroken_concat.2 ⟨linked, rfl⟩)).2
    rw [← ended.atOnce unstarted] at spent
    simpa using spent.quiet (ended.quiet.trans (t.quiet_closed r))
  | @ended turns trials t begun ended _ _ =>
    obtain ⟨linked, rfl⟩ := unbroken_concat.1 unbroken
    simpa using (begun.spent linked).2.quiet (ended.quiet.trans (t.quiet_closed r))

end Plotter
