import Plotter.Proofs.Diagnostic.Listing
import Plotter.Proofs.Request.Complaints
import Plotter.Proofs.Session.Answers
import Plotter.Proofs.Text.Utf8

/-!
# The text of an answer

The diagnostics of an answer are meant to be read one a line. They can be if none of them brings a
line feed. What the compiler says is not looked at before it is told, so whether they can is up to
the reports of the last run, at whatever depth.

## What is proved

* `Trial.Sound.listing`: when the diagnostics of the last trial can be read from the text.
* `Moment.listing_exact`: so it is of every answer, be it to a request for which the user waits or to
  a background request whose outcome is taken.
-/

namespace Plotter

namespace Evaluation

/-- The diagnostics of an answer have one line each in its text. -/
def Listed (e : Evaluation) : Prop := Diagnostic.Listed e.diagnostics e.diagnosticText

/-- How the diagnostics of an answer are told in its text. -/
structure Listing (e : Evaluation) (last : Trial) (host : Host) : Prop where
  feeds : Text.feeds e.diagnosticText =
    e.diagnostics.length + (e.diagnostics.map Diagnostic.breaks).sum
  listed : e.Listed ↔ ∀ d ∈ e.diagnostics, d.breaks = 0
  /-- If the last run failed, that is a matter of its reports. -/
  complained : ∀ run, last.FailsToCompile host run →
    (e.Listed ↔ ∀ r, Passage.report r ∈ Passage.ofOutput (Text.Utf8.decodeLenient run.report) →
      r.OneLine)
  /-- If there is another reason for the failure, the one diagnostic is its message. -/
  uncomplained : ∀ failure, e.failure? = some failure →
    (∀ unit ds, failure ≠ .compilation unit ds) →
      (e.Listed ↔ '\n' ∉ failure.message.toList)

end Evaluation

/-- Of a failure that the compiler did not report, the message is told. -/
theorem Failure.explanation_eq {failure : Failure}
    (uncomplained : ∀ unit ds, failure ≠ .compilation unit ds) :
    failure.explanation = [.ofError failure.message] := by
  cases failure with
  | compilation unit ds => exact absurd rfl (uncomplained unit ds)
  | _ => rfl

/-- **How the diagnostics of a trial are told**, if it is the last. -/
theorem Trial.Sound.listing {t : Trial} {r : Request} {host : Host} (h : t.Sound r host)
    (expression : String) : (⟨expression, t.verdict⟩ : Evaluation).Listing t host where
  feeds := Diagnostic.feeds_renderAll _
  listed := Diagnostic.listed_renderAll_iff _
  complained := by
    intro run fails
    have told : (⟨expression, t.verdict⟩ : Evaluation).diagnostics =
        run.complaints t.compilation.unit.start := by
      rw [Trial.verdict, h.complains fails]
      rfl
    rw [Evaluation.Listed, Evaluation.diagnosticText, told]
    exact run.listed_complaints_iff t.compilation.unit.start
  uncomplained := by
    intro failure failed other
    have told : (⟨expression, t.verdict⟩ : Evaluation).diagnostics =
        [.ofError failure.message] := by
      rw [← Failure.explanation_eq other]
      unfold Evaluation.failure? at failed
      unfold Evaluation.diagnostics
      split at failed
      · cases failed
      · rename_i same
        rw [Option.some.inj failed]
    rw [Evaluation.Listed, Evaluation.diagnosticText, told, Diagnostic.listed_renderAll_iff,
      List.forall_mem_singleton, ← Text.feeds_eq_zero_iff]
    rfl

theorem Account.listing {r : Request} {host : Host} {turns : List (Workshop × Workshop)}
    {trials : List Trial} {last : Trial} {verdict : Verdict}
    (h : Account r host turns trials last verdict) (expression : String) :
    (⟨expression, verdict⟩ : Evaluation).Listing last host := by
  rw [h.decided]
  exact (h.sound last (List.mem_of_getLast? h.isLast)).listing expression

namespace Moment

variable {w : Workshop} {host : Host}

/-- **The text of an answer.** For every host and every compiler, whatever it writes, in every
session: the text of an answer has one line for each diagnostic, in their order, just in case none of
them has a line feed in its message or its code. If the last run failed to compile its unit, that is
so just in case none of the reports that it wrote has. -/
theorem listing_exact (furnished : w.Furnished) (earlier : List Event) {r : Request}
    (found : w.hosts[r.host]? = some host) :
    (∀ s, (first w).after earlier = ⟨s, none⟩ → ∀ waiting e s',
      s.evaluate r waiting = (some e, s') →
        ∃ later trials last,
          (⟨s, some (r, .queued)⟩ : Moment).after later = ⟨s', some (r, .done e.verdict)⟩ ∧
            Account r host (turns .user ⟨s, some (r, .queued)⟩ later) trials last e.verdict ∧
              e.Listing last host) ∧
      ∀ n later e, ((first w).after earlier).standing? (.task n) = some (r, .queued) →
        ((((first w).after earlier).after later).session.take n).1 = some (.ready e) →
          ∃ trials last,
            Account r host (turns (.task n) ((first w).after earlier) later) trials last e.verdict ∧
              e.Listing last host := by
  constructor
  · intro s reached waiting e s' answered
    obtain ⟨later, trials, last, -, pursued, account, -⟩ :=
      account_evaluate furnished reached found answered
    exact ⟨later, trials, last, pursued, account, account.listing e.expression⟩
  · intro n later e queued taken
    obtain ⟨r', standing, -⟩ := standing?_of_take taken
    obtain ⟨rfl, -⟩ := history_after furnished earlier later found queued (by simp) standing
    obtain ⟨trials, last, account⟩ :=
      (account_after furnished earlier later found queued (by simp) standing).1 e.verdict rfl
    exact ⟨trials, last, account, account.listing e.expression⟩

/-- A compiler that always fails, and writes one line. -/
def writing (line : String) (_ : List Attempt) (_ : Call) : Response :=
  .started (.ended ⟨.exited 1, Text.Utf8.encode (line.toList ++ ['\n']), none, 5⟩) none

/-- **A message of two lines.** The compiler reports an error whose message has a line feed, and there
are two lines for one diagnostic. -/
theorem text_of_two_lines :
    let line := "\x7b\"message\":\"a\\nb\",\"level\":\"error\"\x7d"
    let s : Session := { workshop := .bare (writing line) 0 }
    s.workshop.Furnished ∧
      ∃ e s', s.evaluate ⟨0, "x"⟩ false = (some e, s') ∧ e.isSuccess = false ∧
        e.diagnostics.length = 1 ∧ e.diagnosticText = "error: a\nb\n" ∧ ¬e.Listed := by
  intro line s
  have shown : (s.evaluate ⟨0, "x"⟩ false).1.map (fun e =>
      (e.isSuccess, e.diagnostics.length, e.diagnosticText)) = some (false, 1, "error: a\nb\n") := by
    decide +kernel
  obtain ⟨e, answer, told⟩ := Option.map_eq_some_iff.1 shown
  obtain ⟨failed, number, text⟩ : e.isSuccess = false ∧ e.diagnostics.length = 1 ∧
      e.diagnosticText = "error: a\nb\n" := by simpa using told
  refine ⟨Workshop.furnished_bare (writing line) 0, e, _, by rw [← answer], failed, number, text, ?_⟩
  intro listed
  have feeds := listed.feeds
  rw [number, text] at feeds
  exact absurd feeds (by decide +kernel)

/-- What is no report is told line by line. -/
theorem listing_of_line :
    let s : Session := { workshop := .bare (writing "error: broken") 0 }
    ∃ e s' later trials last, s.evaluate ⟨0, "x"⟩ false = (some e, s') ∧
      (⟨s, some (⟨0, "x"⟩, .queued)⟩ : Moment).after later =
        ⟨s', some (⟨0, "x"⟩, .done e.verdict)⟩ ∧
      Account ⟨0, "x"⟩ (Host.bare 0) (turns .user ⟨s, some (⟨0, "x"⟩, .queued)⟩ later) trials last
        e.verdict ∧ e.Listing last (Host.bare 0) ∧
          e.diagnosticText = "note: error: broken\nerror: rustc exited with exit status: 1\n" ∧
            e.Listed := by
  intro s
  have shown : (s.evaluate ⟨0, "x"⟩ false).1.map Evaluation.diagnosticText =
      some "note: error: broken\nerror: rustc exited with exit status: 1\n" := by decide +kernel
  have alone : (s.evaluate ⟨0, "x"⟩ false).1.all (fun e =>
      e.diagnostics.all fun d => d.breaks == 0) = true := by decide +kernel
  obtain ⟨e, answer, text⟩ := Option.map_eq_some_iff.1 shown
  have answered : s.evaluate ⟨0, "x"⟩ false = (some e, (s.evaluate ⟨0, "x"⟩ false).2) := by
    rw [← answer]
  obtain ⟨later, trials, last, pursued, account, listing⟩ :=
    (listing_exact (Workshop.furnished_bare (writing "error: broken") 0) [] (r := ⟨0, "x"⟩) rfl).1
      s rfl false e _ answered
  rw [answer] at alone
  have single : ∀ d ∈ e.diagnostics, d.breaks = 0 := by simpa using alone
  exact ⟨e, _, later, trials, last, answered, pursued, account, listing, text,
    listing.listed.2 single⟩

end Moment

end Plotter
