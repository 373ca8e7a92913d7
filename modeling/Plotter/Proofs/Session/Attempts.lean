import Plotter.Proofs.Request.Result
import Plotter.Proofs.Session.Pursuit

/-!
# How often a request is attempted

A host tries a request again only when a library could not be loaded, and no more often than its
settings allow. This holds for a request that the user waits for, whether background requests go
on in the meantime or not, and for each background request.

## What is proved

* `Moment.attempts_exact`: a request that is at its end was tried once, and once more for each
  of its leading failures to load, as far as the number of retries goes. Each trial took one
  pair of names and called the compiler once; the last alone decides the answer. A request ends
  as soon as each of its runs of the compiler does.
-/

namespace Plotter

variable {r : Request} {host : Host} {w : Workshop} {turns : List (Workshop × Workshop)}
  {trials : List Trial}

/-- Turns of a request that is pursued alone follow one another. -/
theorem History.pursueFor {phase : Phase} {start : Workshop}
    (h : History r host turns trials phase) (unbroken : Unbroken start turns w)
    (ready : w.Ready) (found : w.hosts[r.host]? = some host) (steps : Nat) :
    ∃ turns' trials', History r host turns' trials' (Workshop.pursueFor r steps w phase).1 ∧
      Unbroken start turns' (Workshop.pursueFor r steps w phase).2 := by
  obtain ⟨template, kept⟩ := ready host (List.mem_of_getElem? found)
  induction steps generalizing turns trials w phase with
  | zero => exact ⟨turns, trials, h, unbroken⟩
  | succ steps ih =>
    simp only [Workshop.pursueFor]
    split
    · rename_i moves
      have steady := Workshop.advance_steady ready r phase
      obtain ⟨trials', further⟩ := h.advance moves found kept
      exact ih further (unbroken_concat.2 ⟨unbroken, rfl⟩) (steady.ready ready)
        (steady.hosts ▸ found)
    · exact ⟨turns, trials, h, unbroken⟩

/-- What the trials of a request amount to: `trials` are all of them, `last` is the last, and
`verdict` is how the request ended. -/
structure Account (r : Request) (host : Host) (turns : List (Workshop × Workshop))
    (trials : List Trial) (last : Trial) (verdict : Verdict) : Prop where
  history : History r host turns trials (.done verdict)
  /-- Each trial takes one pair of names and calls the compiler once, for a unit of that name. -/
  sound : ∀ t ∈ trials, t.Sound r host
  /-- The counter says how many trials came before. -/
  counted : ∀ (i : Nat) (t : Trial), trials[i]? = some t → t.retried.toNat = i
  number : trials.length = min host.retries.toNat (trials.takeWhile Trial.failsToLoad).length + 1
  isLast : trials.getLast? = some last
  /-- The verdict is that of the last trial. -/
  decided : verdict = last.verdict
  /-- An instance is one of the last trial's unit, with the warnings of the last run. -/
  made : ∀ number unit warnings elapsed, verdict = .made number unit warnings elapsed →
    unit = last.compilation.unit.names.qualified ∧
      ∃ run killed, last.compilation.response = .started (.ended run) killed ∧
        warnings = run.warnings last.compilation.unit.start ∧ elapsed = run.elapsed
  /-- The compiler's complaints are those of the last run about the last trial's unit. -/
  complained : ∀ unit ds, verdict = .failed (.compilation unit ds) →
    unit = last.compilation.unit.names.qualified ∧
      ∃ run killed, last.compilation.response = .started (.ended run) killed ∧
        ds = run.complaints last.compilation.unit.start

/-- Every request that is at its end has an account. -/
theorem History.account {verdict : Verdict} (h : History r host turns trials (.done verdict)) :
    ∃ last, Account r host turns trials last verdict := by
  obtain ⟨turns', init, last, begun, ended, final, rfl, decided⟩ := h.of_done
  refine ⟨last, h, h.sound_trials, ?_, h.length_trials, by simp, decided, ?_, ?_⟩
  · intro i t found
    rw [List.getElem?_append] at found
    split at found
    · exact begun.retried_getElem? i t found
    · rename_i beyond
      rw [List.getElem?_singleton] at found
      split at found
      · rw [← Option.some.inj found, begun.retried_eq.1]
        omega
      · simp at found
  · intro number unit warnings elapsed made
    rcases ended.result_cases with ⟨run, killed, number', answer, result⟩ |
      ⟨run, killed, -, result⟩ | ⟨failure, result, -⟩
    · simp only [decided, Trial.verdict, result, Verdict.made.injEq] at made
      obtain ⟨-, rfl, rfl, rfl⟩ := made
      exact ⟨rfl, run, killed, answer, rfl, rfl⟩
    · simp [decided, Trial.verdict, result] at made
    · simp [decided, Trial.verdict, result] at made
  · intro unit ds complained
    rcases ended.result_cases with ⟨run, killed, number', answer, result⟩ |
      ⟨run, killed, answer, result⟩ | ⟨failure, result, other⟩
    · simp [decided, Trial.verdict, result] at complained
    · simp only [decided, Trial.verdict, result, Verdict.failed.injEq,
        Failure.compilation.injEq] at complained
      obtain ⟨rfl, rfl⟩ := complained
      exact ⟨rfl, run, killed, answer, rfl⟩
    · simp only [decided, Trial.verdict, result, Verdict.failed.injEq] at complained
      exact absurd complained (other unit ds)

/-- A request that has begun, can go no further and is not at its end waits for a run of the
compiler that never ends. -/
theorem Phase.endless_of_stuck {phase : Phase} (stuck : phase.moves = false)
    (unanswered : phase.isDone = false) :
    ∃ retried c killed, phase = .compiling retried c ∧ c.response = .started .endless killed := by
  cases phase with
  | queued => simp [moves] at stuck
  | done verdict => simp [isDone] at unanswered
  | compiling retried c =>
    obtain ⟨unit, response, began⟩ := c
    cases response with
    | unstarted fault => simp [moves, Compilation.due?] at stuck
    | started course killed =>
      cases course with
      | endless => exact ⟨retried, _, killed, rfl, rfl⟩
      | deaf fault => simp [moves, Compilation.due?, Course.elapsed?] at stuck
      | ended run => simp [moves, Compilation.due?, Course.elapsed?] at stuck

namespace Moment

/-! ### Any client, whatever happens between its turns -/

theorem account_after (furnished : w.Furnished) (earlier later : List Event) {c : Client}
    (found : w.hosts[r.host]? = some host)
    (queued : ((first w).after earlier).standing? c = some (r, .queued))
    (lasts : c = .user → ∀ e ∈ later, e.isAsk = false) {phase : Phase}
    (now : (((first w).after earlier).after later).standing? c = some (r, phase)) :
    (∀ verdict, phase = .done verdict →
      ∃ trials last,
        Account r host (Moment.turns c ((first w).after earlier) later) trials last verdict) ∧
      (phase.isDone = false →
        (Moment.turns c ((first w).after earlier) later).length ≤ host.retries.toNat + 1 ∧
          (phase.moves = true ∨
            ∃ retried c killed, phase = .compiling retried c ∧
              c.response = .started .endless killed)) := by
  obtain ⟨-, trials, history⟩ := history_after furnished earlier later found queued lasts now
  refine ⟨?_, fun unanswered => ⟨history.length_turns_le.2 unanswered, ?_⟩⟩
  · rintro verdict rfl
    obtain ⟨last, account⟩ := history.account
    exact ⟨trials, last, account⟩
  · cases moves : phase.moves with
    | true => exact .inl rfl
    | false => exact .inr (Phase.endless_of_stuck moves unanswered)

/-! ### Requests that the user waits for -/

variable {s : Session}

theorem reached_asked {earlier : List Event} (reached : (first w).after earlier = ⟨s, none⟩)
    (r : Request) : (first w).after (earlier ++ [.ask r]) = ⟨s, some (r, .queued)⟩ := by
  rw [after_append, reached]
  rfl

theorem account_evaluate_alone (orderly : s.Orderly) (found : s.workshop.hosts[r.host]? = some host)
    {e : Evaluation} {s' : Session} (answered : s.evaluate r false = (some e, s')) :
    ∃ turns trials last, Account r host turns trials last e.verdict ∧
      e.expression = r.expression ∧ Unbroken s.workshop turns s'.workshop ∧
        Spent host s.workshop s'.workshop (trials.map Trial.toStart) := by
  obtain ⟨ended, expression⟩ := Session.ending_of_evaluate answered
  have unbegun : History r host [] [] .queued := .queued
  have alone : Unbroken s.workshop [] s.workshop := rfl
  obtain ⟨turns, trials, history, unbroken⟩ :=
    unbegun.pursueFor alone orderly.ready found (s.workshop.stepBound r)
  have done : (s.workshop.pursue r .queued).1 = .done e.verdict := congrArg Prod.fst ended
  obtain rfl : { s with workshop := (s.workshop.pursue r .queued).2 } = s' :=
    congrArg Prod.snd ended
  change History r host turns trials (s.workshop.pursue r .queued).1 at history
  rw [done] at history
  obtain ⟨last, account⟩ := history.account
  exact ⟨turns, trials, last, account, expression, unbroken, history.spent unbroken⟩

theorem pursued_of_evaluate {e : Evaluation} {s' : Session} {waiting : Bool}
    (answered : s.evaluate r waiting = (some e, s')) :
    ∃ later, (∀ event ∈ later, event.isAsk = false) ∧
      (⟨s, some (r, .queued)⟩ : Moment).after later = ⟨s', some (r, .done e.verdict)⟩ ∧
        e.expression = r.expression := by
  obtain ⟨ended, expression⟩ := Session.ending_of_evaluate answered
  obtain ⟨later, unasked, pursued⟩ := s.leads_ending r waiting
  rw [ended] at pursued
  exact ⟨later, unasked, pursued, expression⟩

theorem account_evaluate (furnished : w.Furnished) {earlier : List Event}
    (reached : (first w).after earlier = ⟨s, none⟩) (found : w.hosts[r.host]? = some host)
    {e : Evaluation} {s' : Session} {waiting : Bool}
    (answered : s.evaluate r waiting = (some e, s')) :
    ∃ later trials last, (∀ event ∈ later, event.isAsk = false) ∧
      (⟨s, some (r, .queued)⟩ : Moment).after later = ⟨s', some (r, .done e.verdict)⟩ ∧
        Account r host (Moment.turns .user ⟨s, some (r, .queued)⟩ later) trials last e.verdict ∧
          e.expression = r.expression := by
  obtain ⟨later, unasked, pursued, expression⟩ := pursued_of_evaluate answered
  have asked := reached_asked reached r
  have queued : ((first w).after (earlier ++ [.ask r])).standing? .user = some (r, .queued) := by
    rw [asked]
    rfl
  have done : (((first w).after (earlier ++ [.ask r])).after later).standing? .user =
      some (r, .done e.verdict) := by
    rw [asked, pursued]
    rfl
  obtain ⟨trials, last, account⟩ :=
    (account_after furnished _ later found queued (fun _ => unasked) done).1 e.verdict rfl
  rw [asked] at account
  exact ⟨later, trials, last, unasked, pursued, account, expression⟩

theorem endless_of_unanswered (orderly : s.Orderly) (found : s.workshop.hosts[r.host]? = some host)
    {waiting : Bool} (unanswered : (s.evaluate r waiting).1 = none) :
    ∃ s' retried c killed,
      Leads ⟨s, some (r, .queued)⟩ ⟨s', some (r, .compiling retried c)⟩ ∧
        c.response = .started .endless killed ∧
          (s.evaluate r waiting).2 = s'.giveUp r (.compiling retried c) := by
  obtain ⟨unended, same⟩ := Session.ending_of_evaluate_none unanswered
  have leads := s.leads_ending r waiting
  obtain ⟨retried, c, killed, compiling, endless⟩ :=
    Phase.endless_of_stuck (Session.ending_stuck orderly found waiting) unended
  rw [compiling] at leads same
  exact ⟨_, retried, c, killed, leads, endless, same⟩

/-- **How often a request is attempted.** For every host and every compiler, in every session:
whatever happens between the turns of a request, it has an account when it is at its end, and
until then it has turns left or waits for a run that never ends. A request for which the user
waits is answered unless it waits for such a run; if nothing else goes on in the meantime,
nothing is spent but by its trials. -/
theorem attempts_exact (furnished : w.Furnished) (earlier : List Event)
    (found : w.hosts[r.host]? = some host) :
    (∀ (c : Client) (later : List Event) (phase : Phase),
      ((first w).after earlier).standing? c = some (r, .queued) →
      (c = .user → ∀ e ∈ later, e.isAsk = false) →
      (((first w).after earlier).after later).standing? c = some (r, phase) →
        (∀ verdict, phase = .done verdict →
          ∃ trials last,
            Account r host (Moment.turns c ((first w).after earlier) later) trials last verdict) ∧
          (phase.isDone = false →
            (Moment.turns c ((first w).after earlier) later).length ≤ host.retries.toNat + 1 ∧
              (phase.moves = true ∨
                ∃ retried c killed, phase = .compiling retried c ∧
                  c.response = .started .endless killed))) ∧
      ∀ s, (first w).after earlier = ⟨s, none⟩ →
        (∀ e s', s.evaluate r false = (some e, s') →
          ∃ turns trials last, Account r host turns trials last e.verdict ∧
            e.expression = r.expression ∧ Unbroken s.workshop turns s'.workshop ∧
              Spent host s.workshop s'.workshop (trials.map Trial.toStart)) ∧
          (∀ waiting e s', s.evaluate r waiting = (some e, s') →
            ∃ later trials last, (∀ event ∈ later, event.isAsk = false) ∧
              (⟨s, some (r, .queued)⟩ : Moment).after later = ⟨s', some (r, .done e.verdict)⟩ ∧
                Account r host (Moment.turns .user ⟨s, some (r, .queued)⟩ later) trials last
                  e.verdict ∧ e.expression = r.expression) ∧
            ∀ waiting, (s.evaluate r waiting).1 = none →
              ∃ s' retried c killed,
                Leads ⟨s, some (r, .queued)⟩ ⟨s', some (r, .compiling retried c)⟩ ∧
                  c.response = .started .endless killed ∧
                    (s.evaluate r waiting).2 = s'.giveUp r (.compiling retried c) := by
  refine ⟨fun c later phase queued lasts now =>
    account_after furnished earlier later found queued lasts now, fun s reached => ?_⟩
  have hosted : 0 < w.hosts.length := by
    obtain ⟨bound, -⟩ := List.getElem?_eq_some_iff.1 found
    exact Nat.lt_of_le_of_lt (Nat.zero_le _) bound
  have orderly : s.Orderly := by
    have := orderly_after furnished hosted earlier
    rwa [reached] at this
  have found' : s.workshop.hosts[r.host]? = some host := by
    have := (steady_after furnished earlier).hosts
    rw [reached] at this
    rw [this]
    exact found
  exact ⟨fun e s' answered => account_evaluate_alone orderly found' answered,
    fun waiting e s' answered => account_evaluate furnished reached found answered,
    fun waiting unanswered => endless_of_unanswered orderly found' unanswered⟩

/-- A compiler whose first library cannot be loaded. -/
def flaky (earlier : List Attempt) (_ : Call) : Response :=
  let library : Library := ⟨fun _ => true, interfaceVersion, true, fun _ x => x⟩
  let left : Product := if earlier.isEmpty then .unloadable else .library library
  .started (.ended ⟨.exited 0, [], some left, 5⟩) none

theorem attempts_of_flaky :
    ∃ e s' turns trials last,
      ({ workshop := .bare flaky 3 } : Session).evaluate ⟨0, "x"⟩ false = (some e, s') ∧
        Account ⟨0, "x"⟩ (Host.bare 3) turns trials last e.verdict ∧ trials.length = 2 := by
  let s : Session := { workshop := .bare flaky 3 }
  obtain ⟨e, answer⟩ : ∃ e, (s.evaluate ⟨0, "x"⟩ false).1 = some e :=
    Option.isSome_iff_exists.1 (by decide +kernel)
  have answered : s.evaluate ⟨0, "x"⟩ false = (some e, (s.evaluate ⟨0, "x"⟩ false).2) := by
    rw [← answer]
  obtain ⟨turns, trials, last, account, -, -, spent⟩ :=
    ((attempts_exact (Workshop.furnished_bare flaky 3) [] (r := ⟨0, "x"⟩) rfl).2 s rfl).1
      e _ answered
  refine ⟨e, _, turns, trials, last, answered, account, ?_⟩
  have issued : (s.evaluate ⟨0, "x"⟩ false).2.workshop.names.issued = 2 := by decide +kernel
  have names := congrArg (fun names => names.issued.toNat) spent.names
  have unissued : s.workshop.names.issued = 0 := rfl
  have retries : (Host.bare 3).retries.toNat = 3 := rfl
  have number := account.number
  simp only [issued, unissued, List.length_map, UInt64.zero_add, UInt64.toNat_ofNat'] at names
  rw [retries] at number
  have two : (2 : UInt64).toNat = 2 := rfl
  omega

end Moment

end Plotter
