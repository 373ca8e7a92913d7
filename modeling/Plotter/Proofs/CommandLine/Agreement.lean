import Plotter.CommandLine.Actions
import Plotter.Proofs.CommandLine.Documents
import Plotter.Proofs.Session.Indifference
import Plotter.Proofs.Session.Sampling

/-!
# Two commands agree

To plot an expression and to check it are two commands, each with a host of its own. Both give the
expression to the host and wait; what they write and the status with which they end come of the
answer. On machines that are peers, with compilers that are started and answer alike, the answers
are alike, although the two hosts draw different digits and take different times.

## What is proved

* `CommandLine.plot_check_exact`: each command ends with the status that the answer of its host
  calls for, and prints one object if it is asked for one. That of a plot is that of a check with
  the samples besides, one for each point of the domain.

## Honest scope

A compiler that never ends is waited for: there is then neither an answer nor a status.
-/

namespace Plotter

open Json (Document)
open Json.Document (fieldValues)
open Session (map_x_sample y_eq_zero_of_null)

/-- Digits that two sources of names draw for the same name. -/
inductive SameDraw (chance chance' : UInt64 → Draw) : (draw draw' : UInt64) → Prop
  | package (serial : UInt64) : SameDraw chance chance' (chance serial).package
      (chance' serial).package
  | unit (serial : UInt64) : SameDraw chance chance' (chance serial).unit (chance' serial).unit

namespace CommandLine

/-- A session with the host alone that settings give on a machine, if one can be set up. -/
def hosted? (m : Machine) (chance : UInt64 → Draw) (settings : HostSettings) : Option Session :=
  match Host.setUp m chance settings with
  | (.ok (host, names), m) => some { workshop := { machine := m, names, hosts := [host] } }
  | (.error _, _) => none

/-- The status with which a command ends that evaluated an expression. -/
def statusOf (e : Evaluation) : UInt8 := if e.isSuccess then 0 else 1

variable {m m' : Machine} {chance chance' : UInt64 → Draw} {settings : HostSettings}
  {s s' s₁ : Session} {expression : String} {e : Evaluation}

theorem exists_of_hosted? (created : hosted? m chance settings = some s) :
    ∃ host names v, Host.setUp m chance settings = (.ok (host, names), v) ∧
      s = { workshop := { machine := v, names, hosts := [host] } } := by
  unfold hosted? at created
  split at created
  · rename_i host names v found
    exact ⟨host, names, v, found, (Option.some.inj created).symm⟩
  · cases created

/-! ### What the commands come to -/

theorem withHost_of_some (created : hosted? m chance settings = some s)
    (answered : s.evaluate ⟨0, expression⟩ false = (some e, s₁))
    (answer : Evaluation → Session → Transcript × Session) :
    ∃ err v, withHost m chance settings expression answer =
      some (⟨(answer e s₁).1.out, err, (answer e s₁).1.status⟩, v) := by
  obtain ⟨host, names, v, found, rfl⟩ := exists_of_hosted? created
  refine ⟨noticeLines s₁.workshop.machine ++ (answer e s₁).1.err,
    (answer e s₁).2.dropHosts.reclaim.workshop.machine, ?_⟩
  simp only [withHost, found, answered, Transcript.append, String.empty_append]

theorem withHost_of_none (created : hosted? m chance settings = some s)
    (unanswered : (s.evaluate ⟨0, expression⟩ false).1 = none)
    (answer : Evaluation → Session → Transcript × Session) :
    withHost m chance settings expression answer = none := by
  obtain ⟨host, names, v, found, rfl⟩ := exists_of_hosted? created
  simp only [withHost, found]
  generalize Session.evaluate _ _ _ = answered at unanswered
  obtain ⟨answer, s₁⟩ := answered
  obtain rfl : answer = none := unanswered
  rfl

theorem ending_eq (e : Evaluation) : (ending e).status = statusOf e ∧ (ending e).out = "" := by
  unfold ending statusOf Evaluation.isSuccess
  cases e.failure? <;> exact ⟨rfl, rfl⟩

variable {start stop step : Option Float} {domain : SampleDomain}

/-- What a plot prints and with which status it ends. -/
theorem plot_of_some (created : hosted? m chance settings = some s)
    (accepted : plotDomain start stop step = .ok domain)
    (answered : s.evaluate ⟨0, expression⟩ false = (some e, s₁)) (json : Bool) :
    ∃ out err v, plot m chance settings expression start stop step json =
        some (⟨out, err, statusOf e⟩, v) ∧
      (json = true → out = (report e (some (s₁.sample e.handle domain).1)).prettyText ++ "\n") := by
  obtain ⟨status, silent⟩ := ending_eq e
  simp only [plot, accepted]
  let samples := (s₁.sample e.handle domain).1
  obtain ⟨err, v, ended⟩ := withHost_of_some created answered _
  refine ⟨if json then (report e (some samples)).prettyText ++ "\n"
    else if e.isSuccess then table e samples else "", err, v, ended.trans ?_, ?_⟩
  · simp only [Transcript.append, status, silent, String.append_empty, samples]
  · rintro rfl
    rfl

/-- What a check prints and with which status it ends. -/
theorem check_of_some (created : hosted? m chance settings = some s)
    (answered : s.evaluate ⟨0, expression⟩ false = (some e, s₁)) (json : Bool) :
    ∃ out err v, check m chance settings expression json = some (⟨out, err, statusOf e⟩, v) ∧
      (json = true → out = (report e none).prettyText ++ "\n") := by
  obtain ⟨status, silent⟩ := ending_eq e
  obtain ⟨err, v, ended⟩ := withHost_of_some created answered _
  refine ⟨if json then (report e none).prettyText ++ "\n" else successLine e, err, v,
    ended.trans ?_, ?_⟩
  · cases json <;> simp [Transcript.append, status, silent]
  · rintro rfl
    rfl

/-- The status of a plot is that which the answer of the host calls for, if there is one. -/
theorem status_plot (created : hosted? m chance settings = some s)
    (accepted : plotDomain start stop step = .ok domain) (json : Bool) :
    (plot m chance settings expression start stop step json).map (·.1.status) =
      (s.evaluate ⟨0, expression⟩ false).1.map statusOf := by
  cases answered : s.evaluate ⟨0, expression⟩ false with
  | mk answer s₁ =>
    cases answer with
    | none =>
      have unanswered := congrArg Prod.fst answered
      simp only [plot, accepted, withHost_of_none created unanswered, Option.map_none]
    | some e =>
      obtain ⟨out, err, v, ended, -⟩ := plot_of_some created accepted answered json
      rw [ended]
      rfl

/-- The status of a check is that which the answer of the host calls for, if there is one. -/
theorem status_check (created : hosted? m chance settings = some s) (json : Bool) :
    (check m chance settings expression json).map (·.1.status) =
      (s.evaluate ⟨0, expression⟩ false).1.map statusOf := by
  cases answered : s.evaluate ⟨0, expression⟩ false with
  | mk answer s₁ =>
    cases answer with
    | none =>
      have unanswered := congrArg Prod.fst answered
      simp only [check, withHost_of_none created unanswered, Option.map_none]
    | some e =>
      obtain ⟨out, err, v, ended, -⟩ := check_of_some created answered json
      rw [ended]
      rfl

/-- Answers that are the same but for the digits call for the same status. -/
theorem map_statusOf_eq {P : UInt64 → UInt64 → Prop} {answer answer' : Option Evaluation}
    (h : Option.Rel (Evaluation.Redrawn P) answer answer') :
    answer.map statusOf = answer'.map statusOf := by
  cases h with
  | none => rfl
  | some same => simp only [Option.map_some, statusOf, same.isSuccess]

theorem handle_of_not_isSuccess (failed : e.isSuccess = false) : e.handle = .null := by
  obtain ⟨expression, verdict⟩ := e
  cases verdict with
  | made => cases failed
  | failed => rfl

/-! ### Both commands -/

/-- **To plot and to check agree.** For every expression, all settings with which hosts can be set up
on two machines that are peers, every domain that is accepted and all compilers that are started for
the two hosts alike and answer them alike: whether or not JSON is asked for, both commands end if the
host gives an answer, with status zero if it is a success and with status one otherwise. If JSON is
asked for, each prints one object, of fields that are the same but for the digits of chance and the
time, and besides them a plot has the samples, an array of objects with an x and a y: one for each
point of the domain, in its order, all zero if the answer is a failure. -/
theorem plot_check_exact (peers : m.Peers m') (created : hosted? m chance settings = some s)
    (created' : hosted? m' chance' settings = some s')
    (accepted : plotDomain start stop step = .ok domain) (expression : String)
    (started : ∀ host ∈ s.workshop.hosts, ∀ host' ∈ s'.workshop.hosts,
      host.start s.workshop.machine = host'.start s'.workshop.machine)
    (alike : Machine.Answered (Response.Redrawn (SameDraw chance chance'))
      (s.evaluate ⟨0, expression⟩ false).2.workshop.machine
      (s'.evaluate ⟨0, expression⟩ false).2.workshop.machine) :
    let answer := (s.evaluate ⟨0, expression⟩ false).1
    (∀ json, (plot m chance settings expression start stop step json).map (·.1.status) =
        answer.map fun e => if e.isSuccess then 0 else 1) ∧
      (∀ json, (check m' chance' settings expression json).map (·.1.status) =
        answer.map fun e => if e.isSuccess then 0 else 1) ∧
      ∀ e, answer = some e →
        ∃ plotted checked v v' before after fields, ∃ samples : List Sample,
          plot m chance settings expression start stop step true = some (plotted, v) ∧
          check m' chance' settings expression true = some (checked, v') ∧
          Json.read? plotted.out.toList = some (.object (before ++
            (some "samples", .array (samples.map fun sample => .object
              [(some "x", (Document.ofFloat sample.x).value),
                (some "y", (Document.ofFloat sample.y).value)])) :: after)) ∧
          Json.read? checked.out.toList = some (.object fields) ∧
          List.Forall₂ (FieldAlike (SameDraw chance chance')) (before ++ after) fields ∧
          some "samples" ∉ fields.map Prod.fst ∧
          samples.map Sample.x = domain.points ∧
          (e.isSuccess = false → ∀ sample ∈ samples, sample.y = 0) := by
  intro answer
  have answers : Option.Rel (Evaluation.Redrawn (SameDraw chance chance'))
      (s.evaluate ⟨0, expression⟩ false).1 (s'.evaluate ⟨0, expression⟩ false).1 := by
    obtain ⟨host, names, v, found, rfl⟩ := exists_of_hosted? created
    obtain ⟨host', names', v', found', rfl⟩ := exists_of_hosted? created'
    exact Session.evaluate_twins peers .package .unit found found'
      (started host (List.mem_singleton_self host) host' (List.mem_singleton_self host'))
      expression alike
  refine ⟨status_plot created accepted, fun json =>
    (status_check created' json).trans (map_statusOf_eq answers).symm, fun e given => ?_⟩
  cases own : s.evaluate ⟨0, expression⟩ false with
  | mk a s₁ =>
    cases other : s'.evaluate ⟨0, expression⟩ false with
    | mk a' s₁' =>
      obtain rfl : a = some e := (congrArg Prod.fst own).symm.trans given
      rw [own, other] at answers
      cases answers with
      | some same =>
        obtain ⟨out, err, v, ended, printed⟩ := plot_of_some created accepted own true
        obtain ⟨out', err', v', ended', printed'⟩ := check_of_some created' other true
        obtain ⟨head, tail⟩ := report_redrawn same
        refine ⟨_, _, v, v', _, _, _, (s₁.sample e.handle domain).1, ended, ended', ?_, ?_,
          List.rel_append head tail, ?_, map_x_sample .., fun failed => ?_⟩
        · rw [printed rfl, read?_report]
          simp [sampleFields, fieldValues, Sample.value_documentAll]
        · rw [printed' rfl, read?_report]
          simp [sampleFields]
        · simp [headFields, tailFields]
        · rw [handle_of_not_isSuccess failed]
          exact y_eq_zero_of_null s₁ domain

/-- A compiler that fails. -/
def failing (_ : List Attempt) (_ : Call) : Response :=
  .started (.ended ⟨.exited 1, [], none, 5⟩) none

/-- A session with the host that is set up on a stocked machine. -/
def stockedSession (respond : List Attempt → Call → Response) (chance : UInt64 → Draw) : Session where
  workshop :=
    { machine := (Machine.stocked respond).openScratch.2
      names := { base := .default, chance }
      hosts := [.stocked 1] }

theorem hosted?_stocked (respond : List Attempt → Call → Response) (chance : UInt64 → Draw) :
    hosted? (.stocked respond) chance (.stocked 1) = some (stockedSession respond chance) := by
  simp only [hosted?, Host.setUp_stocked]
  rfl

theorem nameable_stocked (respond : List Attempt → Call → Response) :
    (Machine.stocked respond).Nameable := by
  intro number
  have digit {c : Char} (member : c ∈ Nat.toDigits 10 number) : c.isDigit = true :=
    Nat.isDigit_of_mem_toDigits (by decide) (by decide) member
  have path : ((Machine.stocked respond).temporary number).toList =
      '/' :: Nat.toDigits 10 number := by
    simp [Machine.stocked, Machine.bare]
  rw [path, List.mem_cons, not_or]
  exact ⟨by decide, fun member => absurd (digit member) (by decide)⟩

theorem peers_stocked (respond : List Attempt → Call → Response) :
    (Machine.stocked respond).Peers (.stocked respond) :=
  ⟨Machine.unused_stocked respond, Machine.unused_stocked respond, rfl, rfl, rfl, rfl,
    nameable_stocked respond, nameable_stocked respond⟩

/-- A compiler that does nothing but count its calls answers two hosts alike. -/
theorem answered_stocked {respond : List Attempt → Call → Response}
    (counts : ∀ {earlier earlier' : List Attempt} (call call' : Call),
      earlier.length = earlier'.length → respond earlier call = respond earlier' call')
    (chance chance' : UInt64 → Draw) :
    Machine.Answered (Response.Redrawn (SameDraw chance chance'))
      ((stockedSession respond chance).evaluate ⟨0, "x"⟩ false).2.workshop.machine
      ((stockedSession respond chance').evaluate ⟨0, "x"⟩ false).2.workshop.machine := by
  have tool (chance : UInt64 → Draw) :
      ((stockedSession respond chance).evaluate ⟨0, "x"⟩ false).2.workshop.machine.tool =
        (Machine.stocked respond).tool :=
    ((stockedSession respond chance).steady_evaluate
      (Workshop.furnished_setUp (Machine.unused_stocked respond) (Host.setUp_stocked _ _)).ready
      _ _).machine.tool
  refine Machine.answered_of_counting .refl ((tool _).trans (tool _).symm) ?_
  intro earlier earlier' call call' length
  rw [tool]
  exact counts call call' length

/-- With a compiler whose first library cannot be loaded both commands succeed. With one that fails,
neither does; what a plot then prints is one object all the same, with samples that are all zero. -/
theorem plot_check_of_flaky :
    (plot (.stocked Moment.flaky) (fun _ => ⟨0, 0⟩) (.stocked 1) "x" none none none true).map
        (·.1.status) = some 0 ∧
      (check (.stocked Moment.flaky) (fun _ => ⟨1, 1⟩) (.stocked 1) "x" false).map (·.1.status) =
        some 0 ∧
      (check (.stocked failing) (fun _ => ⟨1, 1⟩) (.stocked 1) "x" true).map (·.1.status) = some 1 ∧
      ∃ plotted v before after, ∃ samples : List Sample,
        plot (.stocked failing) (fun _ => ⟨0, 0⟩) (.stocked 1) "x" none none none true =
          some (plotted, v) ∧
        plotted.status = 1 ∧
        Json.read? plotted.out.toList = some (.object (before ++
          (some "samples", .array (samples.map fun sample => .object
            [(some "x", (Document.ofFloat sample.x).value),
              (some "y", (Document.ofFloat sample.y).value)])) :: after)) ∧
        samples.length = 201 ∧ ∀ sample ∈ samples, sample.y = 0 := by
  have accepted : plotDomain none none none = .ok .default := rfl
  obtain ⟨plotted, checked, -⟩ := plot_check_exact (peers_stocked Moment.flaky)
    (hosted?_stocked _ fun _ => ⟨0, 0⟩) (hosted?_stocked _ fun _ => ⟨1, 1⟩) accepted "x"
    (by simp [stockedSession, Host.start])
    (answered_stocked (fun call call' length => by
      simp only [Moment.flaky, List.isEmpty_iff_length_eq_zero, length]) _ _)
  obtain ⟨plotted', checked', printed⟩ := plot_check_exact (peers_stocked failing)
    (hosted?_stocked _ fun _ => ⟨0, 0⟩) (hosted?_stocked _ fun _ => ⟨1, 1⟩) accepted "x"
    (by simp [stockedSession, Host.start]) (answered_stocked (fun _ _ _ => rfl) _ _)
  have success : ((stockedSession Moment.flaky fun _ => ⟨0, 0⟩).evaluate ⟨0, "x"⟩ false).1.map
      (fun e => if e.isSuccess then (0 : UInt8) else 1) = some 0 := by decide +kernel
  have failure : ((stockedSession failing fun _ => ⟨0, 0⟩).evaluate ⟨0, "x"⟩ false).1.map
      Evaluation.isSuccess = some false := by decide +kernel
  obtain ⟨e, given, failed⟩ := Option.map_eq_some_iff.1 failure
  obtain ⟨out, -, v, -, before, after, -, samples, ended, -, read, -, -, -, points, zero⟩ :=
    printed e given
  refine ⟨(plotted true).trans success, (checked false).trans success, ?_,
    out, v, before, after, samples, ended, ?_, read, ?_, zero failed⟩
  · rw [checked', given]
    simp [failed]
  · have status := plotted' true
    rw [ended, given] at status
    simpa [failed] using status
  · have size := congrArg List.length points
    rw [List.length_map] at size
    rw [size]
    simp [SampleDomain.points, SampleDomain.default]

end CommandLine

end Plotter
