import Plotter.Proofs.Request.Residue
import Plotter.Proofs.Session.Attempts
import Plotter.Proofs.Session.Isolation
import Plotter.Proofs.Session.Leavings

/-!
# Who gets a function

A request comes to a function just in case its last run of the compiler was started, took the whole
source, ended with success and left a library that meets all requirements (`Requirement.all`). If
there is a library, and it falls short of a requirement, the request fails by the first one.

A host looks for the library at the place that the compiler was told (`Trial.Finds`). What is there
is what the run left (`Trial.Delivers`), since no other run writes there, and the scratch directory
is there for as long as the request goes on.

## What is proved

* `Trial.Sound.judged`: how a trial judges what it finds.
* `Moment.finds_iff`: what a trial finds is what its run left.
* `Moment.judgement_after`: a request is judged by its last trial.
* `Moment.capability_exact`: how every request is judged, and that there is a library that meets all
  requirements behind every handle at every moment.

## Honest scope

Names are told apart by a serial number of 64 bits. Once it has come round, a file may have the name
of another that is still there. That what is found is what the run left is proved of machines whose
compiler was called no more than 2⁶⁴ times; how a host judges what it finds, of all.
-/

namespace Plotter

/-- How a request is answered that was last tried with a unit, where `comes l` says that the library
`l` came of the last run, and `after` is the workshop in which the host is done with it. -/
structure Evaluation.Judged (e : Evaluation) (unit : String) (after : Workshop)
    (comes : Library → Prop) : Prop where
  /-- There is a function just in case there is a library that meets all requirements. -/
  compiled : e.handle.isNull = false ↔ ∃ l, comes l ∧ ∀ q ∈ Requirement.all, q.metBy l = true
  /-- The function is an instance of that library, and the handle names its unit. -/
  backed : ∀ l, comes l → (∀ q ∈ Requirement.all, q.metBy l = true) →
    ∃ number, e.handle = .compiled number unit ∧
      ∃ resident ∈ after.residents, resident.number = number ∧
        resident.body = { unit, library := l }
  /-- A library that falls short is reported for the first requirement that it does not meet, and
  the report names the unit. -/
  short : ∀ l before q later, comes l → Requirement.all = before ++ q :: later →
    (∀ p ∈ before, p.metBy l = true) → q.metBy l = false →
      e.failure? = some (q.failure unit l) ∧
        unit.toList <:+: (q.failure unit l).message.toList

theorem Evaluation.Judged.congr {e : Evaluation} {unit : String} {after : Workshop}
    {comes comes' : Library → Prop} (h : e.Judged unit after comes)
    (same : ∀ l, comes l ↔ comes' l) : e.Judged unit after comes' := by
  obtain rfl : comes = comes' := funext fun l => propext (same l)
  exact h

namespace Trial

variable {t : Trial} {r : Request} {host : Host}

/-- In a trial the compiler was started, took the whole source, ended with success and left a
library. -/
def Delivers (t : Trial) (l : Library) : Prop :=
  ∃ run killed, t.compilation.response = .started (.ended run) killed ∧
    run.status.success = true ∧ run.left = some (.library l)

/-- **How a trial judges what it finds.** -/
theorem Sound.judged (h : t.Sound r host) (expression : String) :
    (⟨expression, t.verdict⟩ : Evaluation).Judged t.compilation.unit.names.qualified t.after
      fun l => ∃ run, t.Finds host run l where
  compiled := by
    have made : (⟨expression, t.verdict⟩ : Evaluation).handle.isNull = false ↔
        ∃ verdict, t.result = .ok verdict := by
      cases result : t.result with
      | error failure => simp [verdict, result, Evaluation.handle, Handle.isNull]
      | ok verdict =>
        obtain ⟨run, l, finds, met⟩ := h.made_iff.1 ⟨verdict, result⟩
        have made := h.result_of_finds finds
        rw [met, result] at made
        simp [Trial.verdict, result, Except.ok.inj made, Evaluation.handle, Handle.isNull]
    rw [made, h.made_iff]
    constructor
    · rintro ⟨run, l, finds, met⟩
      exact ⟨l, ⟨run, finds⟩, Library.unmet?_eq_none.1 met⟩
    · rintro ⟨l, ⟨run, finds⟩, met⟩
      exact ⟨run, l, finds, Library.unmet?_eq_none.2 met⟩
  backed := by
    rintro l ⟨run, finds⟩ met
    have unmet : l.unmet? = none := Library.unmet?_eq_none.2 met
    have made := h.result_of_finds finds
    rw [unmet] at made
    refine ⟨t.resumed.made, ?_, _, h.resident_of_finds finds unmet, rfl, rfl⟩
    simp only [verdict, made, Evaluation.handle]
  short := by
    rintro l before q later ⟨run, finds⟩ order met unmet
    have failed := h.result_of_finds finds
    rw [Library.unmet?_of_first order met unmet] at failed
    refine ⟨?_, q.unit_infix_message _ l⟩
    simp only [verdict, failed, Evaluation.failure?]

/-- What a run left is what is found, if the scratch directory is there and nothing else is at the
place of the library. -/
theorem finds_iff_delivers (clear : host.bench.Clear t.resumed.machine t.compilation)
    (clean : '\x00' ∉ (host.bench.libraryPath t.resumed.machine
      t.compilation.unit.names).toList) (l : Library) :
    (∃ run, t.Finds host run l) ↔ t.Delivers l := by
  constructor
  · rintro ⟨run, finds⟩
    obtain ⟨killed, response⟩ := finds.ended
    exact ⟨run, killed, response, finds.success, (clear.at?_leave response).symm.trans finds.found⟩
  · rintro ⟨run, killed, response, success, left⟩
    refine ⟨run, ⟨killed, response⟩, success, (clear.at?_leave response).trans left, ?_⟩
    rw [← Bool.not_eq_true, List.contains_iff_mem]
    exact fun member => clean (List.dropLast_subset _ member)

end Trial

namespace Moment

variable {w : Workshop} {host : Host}

/-- The run on which a client waits is one of those under way. -/
theorem mem_jobs_of_standing {m : Moment} {c : Client} {r : Request} {retried : UInt32}
    {compilation : Compilation} (found : m.session.workshop.hosts[r.host]? = some host)
    (standing : m.standing? c = some (r, .compiling retried compilation)) :
    ∃ lands, (⟨host.bench.scratch, compilation, lands⟩ : Job) ∈ m.jobs := by
  obtain ⟨lands, others, all⟩ := jobs_of_standing standing
  rw [Phase.jobs_compiling found] at all
  exact ⟨lands, all.symm.subset (List.mem_append_left others (List.mem_singleton_self _))⟩

theorem attempts_le_after (furnished : w.Furnished) (earlier later : List Event) :
    ((first w).after earlier).session.workshop.machine.attempts.length ≤
      (((first w).after earlier).after later).session.workshop.machine.attempts.length := by
  induction later using List.reverseRecOn with
  | nil => exact Nat.le_refl _
  | append_singleton later e ih =>
    have ready := (steady_after furnished (earlier ++ later)).ready furnished.ready
    rw [after_append] at ready
    rw [after_append, after_cons, after_nil]
    exact Nat.le_trans ih (steady_react ready e).machine.recorded.length_le

/-- At the place of the run on which a request waits there is nothing, or what the run left. -/
theorem clear_standing (furnished : w.Furnished) (earlier later : List Event)
    {c : Client} {r : Request} (found : w.hosts[r.host]? = some host)
    (queued : ((first w).after earlier).standing? c = some (r, .queued))
    (lasts : c = .user → ∀ e ∈ later, e.isAsk = false)
    (held : ((first w).after earlier).session.holds r.host = true)
    (bound : (((first w).after earlier).after later).session.workshop.machine.attempts.length ≤
      UInt64.size) {retried : UInt32} {compilation : Compilation}
    (standing : (((first w).after earlier).after later).standing? c =
      some (r, .compiling retried compilation)) :
    host.bench.Clear (((first w).after earlier).after later).session.workshop.machine
      compilation := by
  have there := hasScratch_standing furnished earlier later found
    (hasScratch_of_holds furnished earlier found held)
    (fun before e after same => lasts_after queued lasts same) standing rfl
  rw [← after_append] at bound standing there ⊢
  have steady := steady_after furnished (earlier ++ later)
  obtain ⟨lands, member⟩ := mem_jobs_of_standing (steady.hosts.symm ▸ found) standing
  exact ⟨there, Machine.Ledger.own (ledger_after furnished _ bound) member⟩

/-- **What a trial finds is what its run left.** -/
theorem finds_iff (furnished : w.Furnished) (earlier later : List Event) {c : Client} {r : Request}
    (found : w.hosts[r.host]? = some host)
    (queued : ((first w).after earlier).standing? c = some (r, .queued))
    (lasts : c = .user → ∀ e ∈ later, e.isAsk = false)
    (held : ((first w).after earlier).session.holds r.host = true)
    (bound : (((first w).after earlier).after later).session.workshop.machine.attempts.length ≤
      UInt64.size) {t : Trial} (taken : ((first w).after earlier).TakenUp c later r t)
    (l : Library) : (∃ run, t.Finds host run l) ↔ t.Delivers l := by
  by_cases started : t.compilation.response.isStarted = true
  · obtain ⟨before, after, rfl, resumed, standing⟩ := taken started
    have now : (first w).after (earlier ++ before) = ((first w).after earlier).after before :=
      after_append ..
    have steady := steady_after furnished (earlier ++ before)
    have begun : (((first w).after earlier).after before).session.workshop.machine.attempts.length ≤
        UInt64.size := by
      have grows := attempts_le_after furnished (earlier ++ before) after
      rw [after_append, ← now] at bound
      exact now ▸ Nat.le_trans grows bound
    have clean := noZero_standing furnished (earlier ++ before) (now ▸ standing) _ _ host rfl found
    have clear := clear_standing furnished earlier before found queued
      (fun user e member => lasts user e (List.mem_append_left _ member)) held begun standing
    rw [now] at steady
    rw [← resumed] at clear steady
    refine Trial.finds_iff_delivers clear ?_ l
    simpa only [Bench.libraryPath, Machine.scratchPath, steady.machine.temporary] using clean
  · have unstarted {run : Run} {killed : Option Product}
        (response : t.compilation.response = .started (.ended run) killed) : False :=
      started (by rw [response]; rfl)
    constructor
    · rintro ⟨run, finds⟩
      obtain ⟨killed, response⟩ := finds.ended
      exact (unstarted response).elim
    · rintro ⟨run, killed, response, -⟩
      exact (unstarted response).elim

/-- How a request is judged by its last trial: by what the host found, which is what the run left if
the user held the host when the request came in. -/
structure Judgement (e : Evaluation) (last : Trial) (host : Host) (held : Prop) : Prop where
  found : e.Judged last.compilation.unit.names.qualified last.after
    fun l => ∃ run, last.Finds host run l
  left : held → e.Judged last.compilation.unit.names.qualified last.after last.Delivers

/-- **A request that is at its end is judged by its last trial**, whatever happened in between. -/
theorem judgement_after (furnished : w.Furnished) (earlier later : List Event) {c : Client}
    {r : Request} (found : w.hosts[r.host]? = some host)
    (queued : ((first w).after earlier).standing? c = some (r, .queued))
    (lasts : c = .user → ∀ e ∈ later, e.isAsk = false) (e : Evaluation)
    (done : (((first w).after earlier).after later).standing? c = some (r, .done e.verdict)) :
    ∃ trials last,
      Account r host (turns c ((first w).after earlier) later) trials last e.verdict ∧
        Judgement e last host (((first w).after earlier).session.holds r.host = true ∧
          (((first w).after earlier).after later).session.workshop.machine.attempts.length ≤
            UInt64.size) := by
  obtain ⟨-, trials, history, taken⟩ := trials_after furnished earlier later found queued lasts done
  obtain ⟨last, account⟩ := history.account
  have member : last ∈ trials := List.mem_of_getLast? account.isLast
  have own := (account.sound last member).judged e.expression
  rw [← account.decided] at own
  refine ⟨trials, last, account, own, fun ⟨held, bound⟩ => ?_⟩
  exact own.congr
    (finds_iff furnished earlier later found queued lasts held bound (taken last member))

/-- **Who gets a function.** For every host and every compiler, in every session: the answer to a
request for which the user waits, and the outcome of a background request that was not stopped, is a
function just in case the last trial comes to a library that meets all requirements, and a library
that falls short of one is reported for the first. At every moment there is a library that meets all
requirements behind every handle. -/
theorem capability_exact (furnished : w.Furnished) (earlier : List Event) {r : Request}
    (found : w.hosts[r.host]? = some host) :
    (∀ s, (first w).after earlier = ⟨s, none⟩ → ∀ waiting e s',
      s.evaluate r waiting = (some e, s') →
        ∃ later trials last,
          (⟨s, some (r, .queued)⟩ : Moment).after later = ⟨s', some (r, .done e.verdict)⟩ ∧
            Account r host (turns .user ⟨s, some (r, .queued)⟩ later) trials last e.verdict ∧
              Judgement e last host (s.holds r.host = true ∧
                s'.workshop.machine.attempts.length ≤ UInt64.size)) ∧
    (∀ n later e, ((first w).after earlier).standing? (.task n) = some (r, .queued) →
      ((((first w).after earlier).after later).session.take n).1 = some (.ready e) →
        ∃ trials last,
          Account r host (turns (.task n) ((first w).after earlier) later) trials last e.verdict ∧
            Judgement e last host (((first w).after earlier).session.holds r.host = true ∧
              (((first w).after earlier).after later).session.workshop.machine.attempts.length ≤
                UInt64.size)) ∧
      ∀ number unit, ((first w).after earlier).Offers (.compiled number unit) →
        ∃ resident ∈ ((first w).after earlier).session.workshop.residents,
          resident.number = number ∧ resident.body.unit = unit ∧
            ∀ q ∈ Requirement.all, q.metBy resident.body.library = true := by
  refine ⟨fun s reached waiting e s' answered => ?_, fun n later e queued taken => ?_,
    fun number unit offered => ?_⟩
  · obtain ⟨later, unasked, pursued, -⟩ := pursued_of_evaluate answered
    have asked := reached_asked reached r
    have queued : ((first w).after (earlier ++ [.ask r])).standing? .user = some (r, .queued) := by
      rw [asked]
      rfl
    have done : (((first w).after (earlier ++ [.ask r])).after later).standing? .user =
        some (r, .done e.verdict) := by
      rw [asked, pursued]
      rfl
    obtain ⟨trials, last, account, judgement⟩ :=
      judgement_after furnished _ later found queued (fun _ => unasked) e done
    rw [asked] at account judgement
    rw [pursued] at judgement
    exact ⟨later, trials, last, pursued, account, judgement⟩
  · obtain ⟨r', standing, -⟩ := standing?_of_take taken
    obtain ⟨rfl, -⟩ := history_after furnished earlier later found queued (by simp) standing
    exact judgement_after furnished earlier later found queued (by simp) e standing
  · obtain ⟨dealings, backed⟩ := dealings_after furnished earlier
    have isolated := dealings.isolated furnished.untouched.residents furnished.made
    obtain ⟨resident, there, own, named⟩ := backed number unit offered
    obtain ⟨i, birth, body⟩ := isolated.standing resident there
    have capable := (isolated.born i (List.mem_of_getElem? birth)).1
    refine ⟨resident, there, own, named, ?_⟩
    rw [body]
    exact Library.unmet?_eq_none.1 (Library.capable_iff.1 capable)

/-- The first library cannot be loaded; the one that the second run left meets all requirements. -/
theorem capability_of_flaky :
    ∃ e s' last l,
      ({ workshop := .bare flaky 3 } : Session).evaluate ⟨0, "x"⟩ false = (some e, s') ∧
        e.handle.isNull = false ∧ Trial.Delivers last l ∧
          ∀ q ∈ Requirement.all, q.metBy l = true := by
  let s : Session := { workshop := .bare flaky 3 }
  have success : (s.evaluate ⟨0, "x"⟩ false).1.any (fun e => !e.handle.isNull) = true := by
    decide +kernel
  have few : (s.evaluate ⟨0, "x"⟩ false).2.workshop.machine.attempts.length ≤ UInt64.size := by
    decide +kernel
  obtain ⟨e, answer, made⟩ := (Option.any_eq_true ..).1 success
  have answered : s.evaluate ⟨0, "x"⟩ false = (some e, (s.evaluate ⟨0, "x"⟩ false).2) := by
    rw [← answer]
  obtain ⟨later, trials, last, -, -, judgement⟩ :=
    (capability_exact (Workshop.furnished_bare flaky 3) [] (r := ⟨0, "x"⟩) rfl).1 s rfl false e _
      answered
  have function : e.handle.isNull = false := by simpa using made
  obtain ⟨l, delivered, met⟩ := (judgement.left ⟨rfl, few⟩).compiled.1 function
  exact ⟨e, _, last, l, answered, function, delivered, met⟩

end Moment

end Plotter
