import Plotter.Proofs.Request.Result
import Plotter.Proofs.Session.Attempts
import Plotter.Proofs.Template.Keeping

/-!
# One template for every unit

A host loads its template when it is set up, and there is no host without one. From then on the
store answers with that template, so no request has anything to do with the files from which it came:
whatever happens to them, no request fails for want of a template, and each unit for which the
compiler is called is that template filled in.

## What is proved

* `Moment.filled_after`: every call of the compiler on record is one for a unit that a host filled
  its template in for, be it the first of its request or a later one, in the background or not.
* `Moment.templates_exact`: the law of the store, and what comes of it for hosts.
-/

namespace Plotter

/-- Whether a failure is one of the template. -/
def Failure.isTemplate : Failure → Bool
  | templateMissing _ | templateUnreadable _ | templateMalformed _ => true
  | _ => false

/-! ### What requests fail with -/

/-- What comes of a call is no failure of the template. -/
theorem Bench.isTemplate_finish? {b : Bench} {m m' : Machine} {c : Compilation} {failure : Failure}
    (finished : b.finish? m c = some (.error failure, m')) : failure.isTemplate = false := by
  unfold finish? at finished
  cases answer : c.response with
  | unstarted fault =>
    simp only [answer, Option.some.injEq, Prod.mk.injEq, Except.error.injEq] at finished
    rw [← finished.1]
    rfl
  | started course killed =>
    cases course with
    | endless => simp [answer] at finished
    | deaf fault =>
      simp only [answer, Option.some.injEq, Prod.mk.injEq, Except.error.injEq] at finished
      rw [← finished.1]
      rfl
    | ended run =>
      simp only [answer, Option.some.injEq] at finished
      have failed := congrArg Prod.fst finished
      rcases b.finishRun_cases (m.waitUntil (c.due?.getD 0)) c.unit run with
        ⟨loaded, built, -⟩ | complaint | ⟨other, error, kind⟩
      · simp [built] at failed
      · rw [complaint] at failed
        rw [← Except.error.inj failed]
        rfl
      · rw [error] at failed
        rw [← Except.error.inj failed]
        rcases kind with ⟨shortfall, rfl⟩ | ⟨fault, rfl⟩ <;> rfl

namespace Workshop

variable {w w' : Workshop} {r : Request} {host : Host} {template : Template}

/-- What is made of it is none either. -/
theorem Ends.isTemplate {c : Compilation} {failure : Failure}
    (h : w.Ends host c (.error failure) w') : failure.isTemplate = false := by
  obtain ⟨built, machine, finished, settled⟩ := h
  have failed := congrArg Prod.fst settled
  cases built with
  | error failure' =>
    obtain rfl := Except.error.inj failed
    exact Bench.isTemplate_finish? finished
  | ok built =>
    simp only [settle, instantiate] at failed
    split at failed
    · simp at failed
    · rename_i failure' unmade
      simp only [LoadedUnit.instantiate] at unmade
      split at unmade
      · simp at unmade
      · rw [← Except.error.inj failed, ← Except.error.inj unmade]
        rfl

/-- A verdict that is no failure is an instance that was made. -/
theorem Ends.made {c : Compilation} {verdict : Verdict} (h : w.Ends host c (.ok verdict) w') :
    ∃ number unit warnings elapsed, verdict = .made number unit warnings elapsed := by
  obtain ⟨built, machine, -, settled⟩ := h
  have made := congrArg Prod.fst settled
  cases built with
  | error failure => simp [settle] at made
  | ok built =>
    simp only [settle, instantiate] at made
    split at made
    · exact ⟨_, _, _, _, (Except.ok.inj made).symm⟩
    · simp at made

/-- A request that did not fail for want of a template. -/
def Unhindered (phase : Phase) : Prop :=
  ∀ failure, phase = .done (.failed failure) → failure.isTemplate = false

theorem unhindered_attempt (found : w.hosts[r.host]? = some host)
    (kept : host.templates.kept = some template) (retried : UInt32) :
    Unhindered (w.attempt r host retried).1 := by
  intro failure failed
  rw [attempt_eq found kept] at failed
  split at failed
  · simp only [fail, Phase.done.injEq, Verdict.failed.injEq] at failed
    rw [← failed]
    rfl
  · simp at failed

/-- No step of a request fails for want of a template. -/
theorem unhindered_advance (ready : w.Ready) {phase : Phase} (before : Unhindered phase) :
    Unhindered (w.advance r phase).1 := by
  have step := w.advances r phase
  generalize w.advance r phase = next at step ⊢
  cases step with
  | stuck halted => exact before
  | first found =>
    obtain ⟨template, kept⟩ := ready _ (List.mem_of_getElem? found)
    exact unhindered_attempt found kept 0
  | made found ended =>
    obtain ⟨number, unit, warnings, elapsed, rfl⟩ := ended.made
    simp [Unhindered]
  | @again _ retried _ failure _ found ended =>
    obtain ⟨template, kept⟩ := ready _ (List.mem_of_getElem? found)
    have quiet := ended.quiet_note (.retrying failure)
    exact unhindered_attempt (quiet.hosts ▸ found) kept (retried + 1)
  | failed found ended =>
    intro failure failed
    simp only [fail, Phase.done.injEq, Verdict.failed.injEq] at failed
    rw [← failed]
    exact ended.isTemplate

/-! ### What the compiler is called for -/

/-- A call for a unit that a host filled its template in for. -/
def Fills (w : Workshop) (call : Call) : Prop :=
  ∃ (r : Request) (host : Host) (template : Template) (names : UnitNames) (m : Machine),
    w.hosts[r.host]? = some host ∧ host.templates.kept = some template ∧
      call = host.bench.callFor m (SourceUnit.fill template names r.expression)

/-- Every call on record is one for a unit that a host filled its template in for. -/
def Filled (w : Workshop) : Prop := ∀ a ∈ w.machine.attempts, w.Fills a.call

theorem Filled.quiet (h : w.Filled) (quiet : w.Quiet w') : w'.Filled := by
  intro a member
  rw [quiet.machine.attempts] at member
  simpa only [Fills, quiet.hosts] using h a member

theorem Filled.attempt (h : w.Filled) (found : w.hosts[r.host]? = some host)
    (kept : host.templates.kept = some template) (retried : UInt32) :
    (w.attempt r host retried).2.Filled := by
  have begun : (w.commence r host template retried).begun.Filled := by
    intro a member
    rw [(commence_sound kept retried).called, List.mem_cons] at member
    rcases member with rfl | old
    · exact ⟨r, host, template, w.names.next.1, w.machine, found, kept, rfl⟩
    · exact h a old
  rw [attempt_eq found kept]
  split
  · exact begun.quiet (quiet_fail ..)
  · exact begun

/-- **A step of a request calls the compiler for nothing else.** -/
theorem Filled.advance (h : w.Filled) (ready : w.Ready) (r : Request) (phase : Phase) :
    (w.advance r phase).2.Filled := by
  have step := w.advances r phase
  generalize w.advance r phase = next at step ⊢
  cases step with
  | stuck halted => exact h
  | first found =>
    obtain ⟨template, kept⟩ := ready _ (List.mem_of_getElem? found)
    exact h.attempt found kept 0
  | made found ended => exact h.quiet ended.quiet
  | @again _ retried _ failure _ found ended =>
    obtain ⟨template, kept⟩ := ready _ (List.mem_of_getElem? found)
    have quiet := ended.quiet_note (.retrying failure)
    exact (h.quiet quiet).attempt (quiet.hosts ▸ found) kept (retried + 1)
  | failed found ended => exact h.quiet (ended.quiet_fail r _)

end Workshop

namespace Moment

variable {w : Workshop}

/-- **Every call on record is for a unit that a host filled its template in for**, at every
moment. -/
theorem filled_after (furnished : w.Furnished) (events : List Event) :
    ((first w).after events).session.workshop.Filled := by
  induction events using List.reverseRecOn with
  | nil =>
    intro a member
    simp [first, furnished.untouched.attempts] at member
  | append_singleton events e ih =>
    rw [after_append, after_cons, after_nil]
    rcases quiet_or_advance _ e with quiet | ⟨r, phase, advanced⟩
    · exact ih.quiet quiet
    · rw [advanced]
      exact ih.advance ((steady_after furnished events).ready furnished.ready) r phase

/-- No request fails for want of a template. -/
theorem unhindered_after (furnished : w.Furnished) (events : List Event) {c : Client} {r : Request}
    {phase : Phase} (standing : ((first w).after events).standing? c = some (r, phase)) :
    Workshop.Unhindered phase := by
  refine standing_after furnished (P := fun _ phase => Workshop.Unhindered phase) ?_ ?_ events
    standing
  · intro r failure failed
    simp at failed
  · intro w' r phase steady before
    exact Workshop.unhindered_advance (steady.ready furnished.ready) before

/-- An answer that the user waited for is none for want of a template. -/
theorem unhindered_evaluate (furnished : w.Furnished) {earlier : List Event} {s s' : Session}
    (reached : (first w).after earlier = ⟨s, none⟩) {r : Request} {waiting : Bool}
    {e : Evaluation} (answered : s.evaluate r waiting = (some e, s')) {failure : Failure}
    (failed : e.failure? = some failure) : failure.isTemplate = false := by
  obtain ⟨ended, -⟩ := Session.ending_of_evaluate answered
  obtain ⟨later, -, pursued⟩ := s.leads_ending r waiting
  rw [ended, ← reached_asked reached r, ← after_append] at pursued
  have standing : ((first w).after (earlier ++ [.ask r] ++ later)).standing? .user =
      some (r, .done e.verdict) := by
    rw [pursued]
    rfl
  refine unhindered_after furnished _ standing failure ?_
  unfold Evaluation.failure? at failed
  cases verdict : e.verdict with
  | made number unit warnings elapsed => simp [verdict] at failed
  | failed failure' =>
    simp only [verdict, Option.some.injEq] at failed
    rw [failed]

/-- **One template for every unit.** A store answers what is at its path until a load succeeds, and
the template of that load ever after. A host is set up with the answer of a load that succeeded, and
its store answers with it from then on. So at every moment, whatever became of the files: each call
of the compiler on record is for a unit that a host filled that template in for, the next attempt of
any request will be for one too, and no request ever failed for want of a template. -/
theorem templates_exact (furnished : w.Furnished) :
    (∀ path files events, Shelf.Keeps path files events) ∧
    (∀ m templates bench retries host m',
      Host.onBench m templates bench retries = (.ok host, m') →
        ∃ template, templates.load m.files = (.ok template, host.templates) ∧
          host.templates.kept = some template) ∧
    (∀ host ∈ w.hosts, ∃ template, host.templates.kept = some template ∧
      ∀ files, host.templates.load files = (.ok template, host.templates)) ∧
    ∀ events, let m := (first w).after events
      m.session.workshop.hosts = w.hosts ∧
      (∀ a ∈ m.session.workshop.machine.attempts, w.Fills a.call) ∧
      (∀ r host template, w.hosts[r.host]? = some host → host.templates.kept = some template →
        m.session.workshop.prepare r host =
          (.ok (SourceUnit.fill template m.session.workshop.names.next.1 r.expression),
            { m.session.workshop with names := m.session.workshop.names.next.2 })) ∧
      (∀ c r failure, m.standing? c = some (r, .done (.failed failure)) →
        failure.isTemplate = false) ∧
      ∀ s, m = ⟨s, none⟩ → ∀ r waiting e s' failure, s.evaluate r waiting = (some e, s') →
        e.failure? = some failure → failure.isTemplate = false := by
  refine ⟨Shelf.keeps, ?_, ?_, ?_⟩
  · intro m templates bench retries host m' settled
    obtain ⟨-, -, -, loaded⟩ := Host.of_onBench settled
    exact loaded
  · intro host member
    obtain ⟨template, kept⟩ := furnished.ready host member
    exact ⟨template, kept, TemplateStore.load_of_kept kept⟩
  · intro events m
    have hosts : m.session.workshop.hosts = w.hosts := (steady_after furnished events).hosts
    refine ⟨hosts, fun a member => ?_, fun r host template found kept => ?_,
      fun c r failure standing => unhindered_after furnished events standing failure rfl,
      fun s reached r waiting e s' failure answered failed =>
        unhindered_evaluate furnished reached answered failed⟩
    · have filled := filled_after furnished events a member
      rwa [Workshop.Fills, hosts] at filled
    · exact Workshop.prepare_eq (hosts ▸ found) kept

/-- The first library cannot be loaded, so the compiler is called twice, for units of one
template. -/
theorem templates_of_flaky :
    let m := (first (.bare flaky 3)).after [.ask ⟨0, "x"⟩, .pursue, .pursue, .pursue]
    m.session.workshop.machine.attempts.length = 2 ∧
      ∀ a ∈ m.session.workshop.machine.attempts, ∃ names expression,
        a.call.source = (SourceUnit.fill .bare names expression).source := by
  refine ⟨by decide +kernel, fun a member => ?_⟩
  obtain ⟨-, -, -, moments⟩ := templates_exact (Workshop.furnished_bare flaky 3)
  obtain ⟨r, host, template, names, m, found, kept, call⟩ := (moments _).2.1 a member
  obtain rfl : host = Host.bare 3 := List.mem_singleton.1 (List.mem_of_getElem? found)
  obtain rfl := Option.some.inj kept
  exact ⟨names, r.expression, by rw [call]; rfl⟩

end Moment

end Plotter
