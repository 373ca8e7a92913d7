import Plotter.Proofs.CommandLine.Prompt
import Plotter.Proofs.Session.Landing

/-!
# What the read loop says of its lines

Whatever the order in which lines are read, worked on and shown, the loop says of each line one
thing at most. A line is superseded only if it was *cut short*: it was not completed when the
next line was read (`Loop.CutShort`). Otherwise what is said of it was *answered*: it is the
summary of an evaluation that its own task computed, or of the failure of one (`Loop.Answered`).
No line comes after the last one, which is thus answered, and the loop exits when it is.

That it does exit is a matter of counting (`Loop.left`): each turn in which the loop gets on takes
something from what is left, and unless the last task waits for a run of the compiler that never
ends, there is such a turn until the loop has exited.

## What is proved

* `Loop.stands_after`: a task that is done computed its verdict, and one that was told to stop
  was cut short.
* `Loop.left_step`, `Loop.gains_le`: how often the loop can get on.
* `Loop.exists_getsOn`: the loop does not come to a halt before it exits.
* `Summary.prints_text`, `Repl.printed_text`: what is printed of a line, and of all of them.
* `reports_exact`: all together, for every order of the turns, and for what the program itself
  does with what is typed: that it returns, and what it has printed then.
-/

namespace Plotter.CommandLine

/-! ### Summaries -/

/-- What a session finds to say of an evaluation: why it failed, or the range of its function over
the default domain and then the value at zero. -/
inductive Summary.Tells (s : Session) (e : Evaluation) : Summary → Prop
  | failed (failure : e.isSuccess = false) : Tells s e (.failed e)
  | made {samples : List Sample} {s' : Session} {atZero : Float} {w : Workshop}
      (success : e.isSuccess = true) (sampled : s.sample e.handle .default = (samples, s'))
      (called : s'.workshop.call e.handle 0 = (atZero, w)) :
      Tells s e (.made e atZero (finiteRange (samples.map Sample.y)))

theorem Repl.tells_summarize (s : Session) (expression : String) (e : Evaluation) :
    (summarize s expression (.ready e)).1.Tells s e := by
  unfold summarize
  dsimp only
  split
  · rename_i success
    exact .made success rfl rfl
  · rename_i failure
    exact .failed (Bool.eq_false_iff.2 failure)

/-- What is printed of the range of a function. -/
inductive RangePrints : Option (Float × Float) → String → Prop
  | finite (low high : Float) :
      RangePrints (some (low, high))
        ("  min = " ++ Decimal.fixed 6 low ++ ", max = " ++ Decimal.fixed 6 high ++
          " on [-10, 10]\n")
  | empty : RangePrints none "  no finite values on [-10, 10]\n"

/-- What is printed of a summary, with the codes that paint it on a terminal. -/
inductive Summary.Prints : Summary → String → Prop
  | superseded (expression : String) :
      Prints (.superseded expression) ("\x1b[2msuperseded: " ++ expression ++ "\x1b[0m\n")
  | failed (e : Evaluation) :
      Prints (.failed e) ("\x1b[31mfailed:\x1b[0m " ++ e.expression ++ "\n" ++ e.diagnosticText)
  | made (e : Evaluation) (atZero : Float) {range : Option (Float × Float)} {bounds : String}
      (bounded : RangePrints range bounds) :
      Prints (.made e atZero range)
        ("\x1b[32mf(x) = " ++ e.expression ++ "\x1b[0m \x1b[2m(" ++ e.handle.unit?.getD "" ++ ", " ++
          toString (e.elapsed?.getD 0) ++ "ms)\x1b[0m\n  f(0) = " ++
            Decimal.Style.plain.render atZero ++ "\n" ++ bounds)

theorem Summary.prints_text (summary : Summary) : summary.Prints summary.text := by
  cases summary with
  | superseded expression =>
    have painted : text (.superseded expression) =
        "\x1b[2msuperseded: " ++ expression ++ "\x1b[0m\n" := by
      simp [text, Paint.apply, Paint.code, reset, ← String.toList_inj]
    rw [painted]
    exact .superseded expression
  | failed e =>
    have painted : text (.failed e) =
        "\x1b[31mfailed:\x1b[0m " ++ e.expression ++ "\n" ++ e.diagnosticText := by
      simp [text, Paint.apply, Paint.code, reset]
    rw [painted]
    exact .failed e
  | made e atZero range =>
    obtain ⟨bounds, bounded, painted⟩ : ∃ bounds, RangePrints range bounds ∧
        text (.made e atZero range) =
          "\x1b[32mf(x) = " ++ e.expression ++ "\x1b[0m \x1b[2m(" ++ e.handle.unit?.getD "" ++ ", " ++
            toString (e.elapsed?.getD 0) ++ "ms)\x1b[0m\n  f(0) = " ++
              Decimal.Style.plain.render atZero ++ "\n" ++ bounds := by
      cases range with
      | none =>
        refine ⟨_, .empty, ?_⟩
        simp [text, Paint.apply, Paint.code, reset, ← String.toList_inj]
      | some range =>
        refine ⟨_, .finite range.1 range.2, ?_⟩
        simp [text, Paint.apply, Paint.code, reset, ← String.toList_inj]
    rw [painted]
    exact .made e atZero bounded

/-- What is printed of all that was shown: the banner and a prompt, and for each line that was shown
the text of its summary and a prompt, in the order in which they were shown. -/
def Repl.Printed (r : Repl) (out : String) : Prop :=
  ∃ texts, List.Forall₂ (fun shown text => shown.2.Prints text) r.shown.reverse texts ∧
    out = "\x1b[1mfxplot\x1b[0m enter f(x), blank for \x1b[2mx * (sin(x) + cos(x))\x1b[0m\n" ++
      "\x1b[36m>\x1b[0m " ++ String.join (texts.map fun text => text ++ "\x1b[36m>\x1b[0m ")

theorem Repl.printed_text (r : Repl) : r.Printed r.text := by
  refine ⟨r.shown.reverse.map fun shown => shown.2.text, ?_, ?_⟩
  · rw [List.forall₂_map_right_iff]
    exact List.forall₂_same.2 fun shown _ => shown.2.prints_text
  · have first : banner =
        "\x1b[1mfxplot\x1b[0m enter f(x), blank for \x1b[2mx * (sin(x) + cos(x))\x1b[0m\n" := by
      decide
    have next : prompt = "\x1b[36m>\x1b[0m " := by decide
    rw [Repl.text, first, next, List.map_map]
    rfl

open Moment (Reaches)

namespace Loop

variable {l : Loop} {w : Workshop} {lines : List (List Char)} {turns : List Turn} {n : Nat}

/-! ### What comes of a line -/

/-- When the line after a line was read, that line was not completed. -/
def CutShort (l : Loop) (n : Nat) (turns : List Turn) : Prop :=
  ∃ before after, turns = before ++ .read :: after ∧ (l.after before).getsOn .read = true ∧
    (l.after before).repl.session.submitted = n + 1 ∧ ¬(l.after before).moment.Completed n

/-- A turn of a line's own task computed a verdict. -/
def Computed (l : Loop) (n : Nat) (r : Request) (verdict : Verdict) (turns : List Turn) : Prop :=
  ∃ before after phase, turns = before ++ .work n :: after ∧
    (l.after before).moment.standing? (.task n) = some (r, phase) ∧ phase.isDone = false ∧
      ((l.after before).repl.session.workshop.advance r phase).1 = .done verdict

theorem CutShort.append (h : l.CutShort n turns) (further : List Turn) :
    l.CutShort n (turns ++ further) := by
  obtain ⟨before, after, rfl, rest⟩ := h
  exact ⟨before, after ++ further, by simp, rest⟩

theorem Computed.append {r : Request} {verdict : Verdict} (h : l.Computed n r verdict turns)
    (further : List Turn) : l.Computed n r verdict (turns ++ further) := by
  obtain ⟨before, after, phase, rfl, rest⟩ := h
  exact ⟨before, after ++ further, phase, by simp, rest⟩

/-- What is known of a task from how it stands. -/
structure Stands (l : Loop) (turns : List Turn) (t : Task) : Prop where
  computed : ∀ verdict, t.state = .live (.done verdict) →
    l.Computed t.ticket t.request verdict turns
  cut : (∀ phase, t.state ≠ .live phase) → l.CutShort t.ticket turns

theorem Stands.append {t : Task} (h : l.Stands turns t) (further : List Turn) :
    l.Stands (turns ++ further) t where
  computed := fun verdict done => (h.computed verdict done).append further
  cut := fun halted => (h.cut halted).append further

/-- A turn of the loop keeps to what is known of a task. -/
theorem Stands.onward {u t : Task} {turn : Turn} (known : l.Stands turns u)
    (numbered : (l.after turns).repl.session.Numbered)
    (there : u ∈ (l.after turns).repl.session.tasks) (ticket : t.ticket = u.ticket)
    (request : t.request = u.request) (onward : (l.after turns).Onward u turn t.state) :
    l.Stands (turns ++ [turn]) t := by
  have found := numbered.task?_eq there
  generalize state : t.state = next at onward
  cases onward with
  | stays =>
    have same := known.append [turn]
    refine ⟨fun verdict done => ?_, fun halted => ?_⟩
    · rw [ticket, request]
      exact same.computed verdict (state ▸ done)
    · rw [ticket]
      exact same.cut fun phase => state ▸ halted phase
  | @told phase live undone last more =>
    refine ⟨fun verdict done => by simp [state] at done, fun _ => ?_⟩
    refine ⟨turns, [], rfl, more, ?_, ?_⟩
    · rw [ticket, last]
    · rw [ticket, Moment.completed_iff found]
      rintro ⟨verdict, done⟩
      obtain rfl := TaskState.live.inj (live.symm.trans done)
      simp [Phase.isDone] at undone
  | @stops phase stopping =>
    refine ⟨fun verdict done => by simp [state] at done, fun _ => ?_⟩
    rw [ticket]
    exact (known.append [.work u.ticket]).cut fun phase => by simp [stopping]
  | @advances phase live =>
    refine ⟨fun verdict done => ?_, fun halted => absurd state (halted _)⟩
    rw [state] at done
    rw [ticket, request]
    cases undone : phase.isDone with
    | true =>
      obtain ⟨verdict', rfl⟩ : ∃ verdict', phase = .done verdict' := by
        cases phase <;> simp_all [Phase.isDone]
      rw [Workshop.advance_done] at done
      obtain rfl := Phase.done.inj (TaskState.live.inj done)
      exact (known.append [_]).computed _ live
    | false =>
      exact ⟨turns, [], phase, rfl, Moment.standing?_task.2 ⟨u, found, rfl, live⟩, undone,
        TaskState.live.inj done⟩

/-- **What is known of every task.** -/
theorem stands_after (w : Workshop) (lines : List (List Char)) (turns : List Turn) :
    ∀ t ∈ ((start w lines).after turns).repl.session.tasks, (start w lines).Stands turns t := by
  -- The induction is on the turns from the last one back, which made of the task what it is.
  induction turns using List.reverseRecOn with
  | nil => simp [start]
  | append_singleton turns turn ih =>
    intro t member
    have fit := fit_after w lines turns
    rw [after_append] at member
    rcases fit.onward member with ⟨line, -, -, rfl⟩ | ⟨u, there, ticket, -, request, onward⟩
    · exact ⟨fun verdict done => by simp at done, fun halted => absurd rfl (halted .queued)⟩
    · exact (ih u there).onward fit.ordered.1 there ticket request onward

/-! ### What is said of a line -/

/-- What is said of a line is what its evaluation was when it was shown. -/
def Answered (l : Loop) (n : Nat) (expression : String) (summary : Summary) (turns : List Turn) :
    Prop :=
  ∃ before after e, turns = before ++ .present n :: after ∧ e.expression = expression ∧
    l.Computed n ⟨0, expression⟩ e.verdict before ∧
      summary.Tells ((l.after before).repl.session.take n).2 e

/-- What is said of a line: that it was superseded, if it was cut short, or its answer. -/
def Reported (l : Loop) (n : Nat) (expression : String) (summary : Summary) (turns : List Turn) :
    Prop :=
  summary = .superseded expression ∧ l.CutShort n turns ∨ l.Answered n expression summary turns

theorem Reported.append {expression : String} {summary : Summary}
    (h : l.Reported n expression summary turns) (further : List Turn) :
    l.Reported n expression summary (turns ++ further) := by
  rcases h with ⟨superseded, cut⟩ | ⟨before, after, e, rfl, rest⟩
  · exact .inl ⟨superseded, cut.append further⟩
  · exact .inr ⟨before, after ++ further, e, by simp, rest⟩

/-- An answer is that a function was made, or why there is none. -/
theorem Answered.cases {expression : String} {summary : Summary}
    (h : l.Answered n expression summary turns) :
    ∃ e, e.expression = expression ∧ l.Computed n ⟨0, expression⟩ e.verdict turns ∧
      (e.isSuccess = false ∧ summary = .failed e ∨
        e.isSuccess = true ∧ ∃ atZero range, summary = .made e atZero range) := by
  obtain ⟨before, after, e, rfl, own, computed, tells⟩ := h
  refine ⟨e, own, computed.append _, ?_⟩
  cases tells with
  | failed failure => exact .inl ⟨failure, rfl⟩
  | made success sampled called => exact .inr ⟨success, _, _, rfl⟩

/-- A line is shown as its outcome. -/
theorem Fit.shown_step (h : l.Fit w lines) (turn : Turn) :
    (l.step turn).repl.shown = l.repl.shown ∨
      ∃ t outcome, turn = .present t.ticket ∧ l.repl.session.task? t.ticket = some t ∧
        t.outcome? = some outcome ∧
          (l.step turn).repl.shown =
            (t.ticket, (Repl.summarize (l.repl.session.take t.ticket).2 t.request.expression
              outcome).1) :: l.repl.shown := by
  have steps := h.steps turn
  generalize l.step turn = l' at steps ⊢
  cases steps with
  | @present t outcome running found own =>
    refine .inr ⟨t, outcome, rfl, found, own, ?_⟩
    dsimp only
    rw [Repl.present_eq found own]
  | _ => exact .inl rfl

/-- **What is said of every line.** -/
theorem reported_after (w : Workshop) (lines : List (List Char)) (turns : List Turn)
    {summary : Summary} (shown : (n, summary) ∈ ((start w lines).after turns).repl.shown) :
    ∃ line, lines[n]? = some line ∧
      (start w lines).Reported n (expressionOfLine line) summary turns := by
  induction turns using List.reverseRecOn with
  | nil => simp [start] at shown
  | append_singleton turns turn ih =>
    have fit := fit_after w lines turns
    have stands := stands_after w lines turns
    rw [after_append, after_cons, after_nil] at shown
    have old (before : (n, summary) ∈ ((start w lines).after turns).repl.shown) :
        ∃ line, lines[n]? = some line ∧
          (start w lines).Reported n (expressionOfLine line) summary (turns ++ [turn]) := by
      obtain ⟨line, found, reported⟩ := ih before
      exact ⟨line, found, reported.append [turn]⟩
    rcases fit.shown_step turn with same | ⟨t, outcome, rfl, found, own, more⟩
    · exact old (same ▸ shown)
    rw [more] at shown
    rcases List.mem_cons.1 shown with new | before
    · obtain ⟨rfl, rfl⟩ := Prod.mk.inj new
      have member := Session.mem_of_task? found
      obtain ⟨line, next, request⟩ := fit.own t member
      have known := stands t member
      refine ⟨line, next, ?_⟩
      rw [request]
      unfold Task.outcome? at own
      split at own
      · rename_i verdict done
        obtain rfl := Option.some.inj own
        have computed := known.computed verdict done
        rw [request] at computed
        rw [request]
        exact .inr ⟨turns, [], _, rfl, rfl, computed, Repl.tells_summarize _ _ _⟩
      · rename_i superseded
        obtain rfl := Option.some.inj own
        exact .inl ⟨rfl, (known.cut fun phase => by simp [superseded]).append _⟩
      · simp at own
    · exact old before

/-! ### Getting on -/

/-- A bound for the number of turns in which the loop may still get on because of a task. -/
def taskLeft (retries : UInt32) : TaskState → Nat
  | .live phase => phase.left retries + 1
  | .stopping _ => 2
  | .superseded => 1

/-- A bound for the number of turns in which the loop may still get on. -/
def left (retries : UInt32) (l : Loop) : Nat :=
  l.unread.length * (retries.toNat + 4) +
    (l.repl.session.tasks.map fun t => taskLeft retries t.state).sum +
      if l.status.isNone then 1 else 0

theorem taskLeft_pos (retries : UInt32) (state : TaskState) : 0 < taskLeft retries state := by
  cases state <;> simp [taskLeft]

theorem taskLeft_stop (retries : UInt32) (state : TaskState) :
    taskLeft retries state.stop ≤ taskLeft retries state := by
  cases state with
  | live phase =>
    cases phase <;> simp [TaskState.stop, Phase.isDone, taskLeft, Phase.left]
  | stopping phase => exact Nat.le_refl _
  | superseded => exact Nat.le_refl _

/-- What is left to the tasks after one of them changed. -/
theorem sum_taskLeft_lt {s : Session} (numbered : s.Numbered) {retries : UInt32}
    (next : Task → TaskState) {t : Task} (member : t ∈ s.tasks)
    (fewer : taskLeft retries (next t) < taskLeft retries t.state) :
    ((s.tasks.map fun u => if u.ticket = t.ticket then { u with state := next u } else u).map
        fun u => taskLeft retries u.state).sum <
      (s.tasks.map fun u => taskLeft retries u.state).sum := by
  rw [List.map_map]
  refine List.sum_lt_sum _ _ (fun u there => ?_) ⟨t, member, by simpa using fewer⟩
  simp only [Function.comp]
  split
  · rename_i same
    obtain rfl := numbered.eq_of_ticket member there same
    exact Nat.le_of_lt fewer
  · exact Nat.le_refl _

/-- What is left to the tasks when one of them is gone. -/
theorem sum_taskLeft_filter (retries : UInt32) {tasks : List Task} {t : Task} (member : t ∈ tasks) :
    ((tasks.filter fun u => u.ticket != t.ticket).map fun u => taskLeft retries u.state).sum <
      (tasks.map fun u => taskLeft retries u.state).sum := by
  induction tasks with
  | nil => simp at member
  | cons u tasks ih =>
    have positive := taskLeft_pos retries u.state
    by_cases own : u.ticket = t.ticket
    case neg =>
      have there : t ∈ tasks := by
        rcases List.mem_cons.1 member with rfl | there
        · exact absurd rfl own
        · exact there
      rw [List.filter_cons_of_pos (by simpa using own), List.map_cons, List.map_cons, List.sum_cons, List.sum_cons]
      exact Nat.add_lt_add_left (ih there) _
    case pos =>
      have fewer := (List.filter_sublist (p := fun u => u.ticket != t.ticket) (l := tasks)).map
        fun u => taskLeft retries u.state
      rw [List.filter_cons_of_neg (by simp [own]), List.map_cons, List.sum_cons]
      have := fewer.sum_le_sum (by simp)
      omega

/-- **Each turn in which the loop gets on takes from what is left**, and no other adds to it. -/
theorem left_step (h : l.Fit w lines) (furnished : w.Furnished) {host : Host}
    (found : w.hosts[0]? = some host) (turn : Turn) :
    (l.step turn).left host.retries + (if l.getsOn turn then 1 else 0) ≤ l.left host.retries := by
  have numbered := h.ordered.1
  have steady := h.steady furnished
  have ready := steady.ready furnished.ready
  have unread := congrArg List.length h.unread
  have most : (if l.getsOn turn then 1 else 0) ≤ 1 := by split <;> omega
  have steps := h.steps turn
  generalize l.step turn = l' at steps ⊢
  cases steps with
  | stays idle => simp [idle]
  | beside idle => simp [idle, left]
  | @read line running next =>
    have more := (List.getElem?_eq_some_iff.1 next).1
    have stopped : (l.repl.session.stopInFlight.tasks.map fun t =>
        taskLeft host.retries t.state).sum ≤
          (l.repl.session.tasks.map fun t => taskLeft host.retries t.state).sum := by
      simp only [Session.stopInFlight, List.map_map]
      refine List.sum_le_sum fun t _ => ?_
      simp only [Function.comp]
      split
      · exact taskLeft_stop ..
      · exact Nat.le_refl _
    rw [List.length_map, List.length_drop] at unread
    obtain ⟨k, rest⟩ : ∃ k, l.unread.length = k + 1 := ⟨l.unread.length - 1, by omega⟩
    have rest' : lines.length - (l.repl.session.submitted + 1) = k := by omega
    have new : taskLeft host.retries (.live .queued) = host.retries.toNat + 3 := rfl
    simp only [left, h.tasks_enter, List.length_map, List.length_drop, List.map_append,
      List.sum_append, List.map_cons, List.map_nil, List.sum_cons, List.sum_nil, new, rest, rest',
      Nat.succ_mul]
    omega
  | @stop t phase running there stopping =>
    have fewer : taskLeft host.retries t.state.halt < taskLeft host.retries t.state := by
      simp [stopping, TaskState.halt, taskLeft]
    have less := sum_taskLeft_lt numbered (fun t => t.state.halt) there fewer
    simp only [left, numbered.tasks_stop]
    omega
  | @proceed t phase running there live moves =>
    have host0 : l.repl.session.workshop.hosts[t.request.host]? = some host := by
      obtain ⟨line, -, request⟩ := h.own t there
      rw [request, steady.hosts]
      exact found
    have fewer : taskLeft host.retries (l.repl.session.stepState t) <
        taskLeft host.retries t.state := by
      have step := Workshop.left_advance ready host0 moves
      simp only [Session.stepState, live, taskLeft]
      omega
    have less := sum_taskLeft_lt numbered l.repl.session.stepState there fewer
    simp only [left, numbered.tasks_proceed]
    omega
  | @present t outcome running there own =>
    have less := sum_taskLeft_filter host.retries (Session.mem_of_task? there)
    simp only [left, h.tasks_present there own]
    omega
  | exit running nothing answered =>
    simp only [left, running, Option.isNone_none, Option.isNone_some, if_true]
    simp only [Bool.false_eq_true, if_false]
    omega

/-- The number of turns in which the loop gets on. -/
def gains : Loop → List Turn → Nat
  | _, [] => 0
  | l, turn :: turns => (if l.getsOn turn then 1 else 0) + gains (l.step turn) turns

/-- The loop gets on only so often. -/
theorem gains_le (h : l.Fit w lines) (furnished : w.Furnished) {host : Host}
    (found : w.hosts[0]? = some host) (turns : List Turn) :
    l.gains turns + (l.after turns).left host.retries ≤ l.left host.retries := by
  induction turns generalizing l with
  | nil => simp [gains]
  | cons turn turns ih =>
    have step := left_step h furnished found turn
    have rest := ih (h.step turn)
    rw [gains, after_cons]
    omega

theorem Fit.submitted_eq (h : l.Fit w lines) (unread : l.unread = []) :
    l.repl.session.submitted = lines.length := by
  have rest := congrArg List.length h.unread
  have within := h.within
  rw [unread, List.length_map, List.length_drop, List.length_nil] at rest
  omega

/-- A line is read only if it is there. -/
theorem Fit.lt_of_reads (h : l.Fit w lines) (reads : l.getsOn .read = true) :
    l.repl.session.submitted < lines.length := by
  have within := h.within
  by_contra all
  have exhausted : l.unread = [] := by
    rw [h.unread, List.drop_eq_nil_of_le (by omega), List.map_nil]
  simp [getsOn, exhausted] at reads

/-- The last line is never cut short. -/
theorem CutShort.lt (h : (start w lines).CutShort n turns) : n + 1 < lines.length := by
  obtain ⟨before, after, -, reads, submitted, -⟩ := h
  exact submitted ▸ (fit_after w lines before).lt_of_reads reads

/-- **The loop does not come to a halt** before it exits, unless its last task waits for a run of
the compiler that never ends. -/
theorem exists_getsOn (h : l.Fit w lines) (running : l.status = none) (ends : l.RunsEnd) :
    ∃ turn, l.getsOn turn = true := by
  by_cases unread : l.unread = []
  case neg => exact ⟨.read, by simp [getsOn, running, unread]⟩
  cases answered : l.isAnswered with
  | true => exact ⟨.exit, by simp [getsOn, running, unread, answered]⟩
  | false =>
    -- The last line that was read has a task, which can be worked on or shown.
    obtain ⟨entered, untold⟩ : l.repl.session.submitted ≠ 0 ∧
        l.repl.session.submitted - 1 ∉ l.told := by
      simpa [isAnswered] using answered
    have last : l.repl.session.submitted - 1 ∈ l.repl.unshown := by
      have among : l.repl.session.submitted - 1 ∈ List.range l.repl.session.submitted :=
        List.mem_range.2 (by omega)
      rcases List.mem_append.1 (h.listed.mem_iff.2 among) with unshown | told
      · exact unshown
      · exact absurd told untold
    rw [h.unshown, List.mem_map] at last
    obtain ⟨t, there, -⟩ := last
    have found := h.ordered.1.task?_eq there
    have works (on : goesOn t.state = true) : ∃ turn, l.getsOn turn = true :=
      ⟨.work t.ticket, by simp [getsOn, running, found, on]⟩
    have shows (finished : t.state.isFinished = true) : ∃ turn, l.getsOn turn = true :=
      ⟨.present t.ticket, by simp [getsOn, running, found, finished]⟩
    cases state : t.state with
    | live phase =>
      cases moves : phase.moves with
      | true => exact works (by simp [state, goesOn, moves])
      | false =>
        cases undone : phase.isDone with
        | true => exact shows (by simp [state, TaskState.isFinished, undone])
        | false =>
          obtain ⟨retried, c, killed, rfl, endless⟩ := Phase.endless_of_stuck moves undone
          exact absurd endless (ends t there retried c state killed)
    | stopping phase => exact works (by simp [state, goesOn])
    | superseded => exact shows (by simp [state, TaskState.isFinished])

/-- When the loop has exited, its last line was answered. -/
theorem answered_of_exited {l : Loop} (same : (start w lines).after turns = l)
    (nonempty : lines ≠ []) {status : UInt8} (exited : l.status = some status) :
    status = 0 ∧ ∃ line summary, lines[lines.length - 1]? = some line ∧
      (lines.length - 1, summary) ∈ l.repl.shown ∧
        (start w lines).Answered (lines.length - 1) (expressionOfLine line) summary turns := by
  subst same
  have fit := fit_after w lines turns
  obtain ⟨zero, unread, answered⟩ := fit.exited status exited
  have all := fit.submitted_eq unread
  have more := List.length_pos_of_ne_nil nonempty
  have told : lines.length - 1 ∈ ((start w lines).after turns).told := by
    simpa [isAnswered, all, Nat.ne_of_gt more] using answered
  obtain ⟨⟨n, summary⟩, shown, rfl⟩ := List.mem_map.1 told
  obtain ⟨line, next, ⟨-, cut⟩ | answer⟩ := reported_after w lines turns shown
  · have more := cut.lt
    omega
  · exact ⟨zero, line, summary, next, shown, answer⟩

/-- No line is shown twice. -/
theorem Fit.nodup_told (h : l.Fit w lines) : l.told.Nodup :=
  (List.nodup_append.1 (h.listed.nodup_iff.2 List.nodup_range)).2.1

end Loop

/-! ### Blank lines -/

/-- A text that trims to nothing is blank: its first character that is not stays. -/
theorem trim_eq_nil_iff {text : List Char} : Text.trim text = [] ↔ text.all Text.isBlank = true := by
  refine ⟨fun empty => ?_, Text.trim_eq_nil_of_all⟩
  simp only [Text.trim, List.reverse_eq_nil_iff, List.dropWhile_eq_nil_iff, List.mem_reverse] at empty
  rw [List.all_eq_true]
  rw [← List.takeWhile_append_dropWhile (p := Text.isBlank) (l := text)]
  intro c member
  rcases List.mem_append.1 member with first | rest
  · exact List.mem_takeWhile_imp first
  · exact empty c rest

/-- A blank line stands for the default expression, and every other for its text without the
blanks at its ends. -/
theorem expressionOfLine_eq (line : List Char) :
    expressionOfLine line =
      if line.all Text.isBlank then defaultExpression else String.ofList (Text.trim line) := by
  unfold expressionOfLine
  split
  · rename_i empty
    rw [if_pos (trim_eq_nil_iff.1 empty)]
  · rename_i visible
    rw [if_neg fun blank => visible (trim_eq_nil_iff.2 blank)]

/-! ### All together -/

/-- **If each run of the compiler ends**, so does each for which a task of the loop waits. -/
theorem Loop.runsEnd_after {w : Workshop} (furnished : w.Furnished) (ends : w.machine.tool.Ends)
    (lines : List (List Char)) (turns : List Turn) : ((start w lines).after turns).RunsEnd := by
  intro t member retried c state
  obtain ⟨events, same⟩ := (fit_after w lines turns).reached
  have among : t ∈ ((Moment.first w).after events).session.tasks := same ▸ member
  have stands : t.state.phase? = some (.compiling retried c) := by
    rw [state]
    rfl
  exact Moment.responses_after furnished
    (P := fun response => ∀ killed, response ≠ .started .endless killed) (fun _ _ => nofun) ends
    events among stands

/-- What is true of the read loop after some turns. -/
structure Loop.Reports (start : Loop) (lines : List (List Char)) (retries : UInt32)
    (turns : List Turn) : Prop where
  /-- Each task works on the expression of its line. -/
  asked : ∀ t ∈ (start.after turns).repl.session.tasks, ∃ line, lines[t.ticket]? = some line ∧
    t.request = ⟨0, expressionOfLine line⟩
  /-- No line is shown twice. -/
  once : ∀ n, (start.after turns).told.count n ≤ 1
  /-- A line that is shown was superseded, and then it was cut short, or it was answered. -/
  told : ∀ n summary, (n, summary) ∈ (start.after turns).repl.shown →
    ∃ line, lines[n]? = some line ∧
      start.Reported n (expressionOfLine line) summary turns
  /-- What is printed is the banner, and each line's summary once, when it is shown. -/
  printed : (start.after turns).repl.Printed (start.after turns).repl.text
  /-- If the loop has exited, its status is zero, and its last line was shown and answered. -/
  exited : ∀ status, (start.after turns).status = some status →
    status = 0 ∧ (start.after turns).told.count (lines.length - 1) = 1 ∧
      ∃ line summary, lines[lines.length - 1]? = some line ∧
        (lines.length - 1, summary) ∈ (start.after turns).repl.shown ∧
          start.Answered (lines.length - 1) (expressionOfLine line) summary turns ∧
            ∀ expression, summary ≠ .superseded expression
  /-- The loop gets on only so often. -/
  bounded : start.gains turns ≤ lines.length * (retries.toNat + 4) + 1
  /-- If it can get on no more, it has exited, unless its last task waits for a run that never
  ends. -/
  complete : (∀ turn, (start.after turns).getsOn turn = false) → (start.after turns).RunsEnd →
    (start.after turns).status = some 0

/-- **The read loop reports each line rightly, and its last line once before it exits**, in whatever
order its turns are taken. The program takes them in one such order until no line is left to be read.
If then each run ends for which a task waits, it returns with status zero, and it has printed all that
was shown and a line end. If one does not, it does not return. -/
theorem reports_exact {m m' : Machine} {chance : UInt64 → Draw} {settings : HostSettings}
    {host : Host} {names : NameSource} (unused : m.Unused)
    (setUp : Host.setUp m chance settings = (.ok (host, names), m')) (lines : List (List Char))
    (nonempty : lines ≠ []) :
    let start := Loop.start { machine := m', names, hosts := [host] } lines
    (∀ turns, start.Reports lines host.retries turns) ∧
    (∀ line, expressionOfLine line =
      if line.all Text.isBlank then defaultExpression else String.ofList (Text.trim line)) ∧
    (m.tool.Ends → ∀ turns, (start.after turns).RunsEnd) ∧
    ∀ typed, Repl.typedLines [] typed = lines.map Text.Utf8.encode →
      ∃ turns, (start.after turns).unread = [] ∧
        ((start.after turns).RunsEnd → (start.after turns).status = some 0 ∧
          ∃ t m'' out, readLoop m chance settings typed = some (t, m'') ∧ t.status = 0 ∧
            (start.after turns).repl.Printed out ∧ t.out = out ++ "\n") ∧
        (¬(start.after turns).RunsEnd → readLoop m chance settings typed = none) := by
  intro start
  have furnished := Workshop.furnished_setUp unused setUp
  have found : [host][0]? = some host := rfl
  have tool : m'.tool = m.tool := by
    obtain ⟨base, toolchain, files, -, -, -, -, rfl, -⟩ := Host.of_setUp setUp
    rfl
  refine ⟨fun turns => ?_, expressionOfLine_eq,
    fun ends => Loop.runsEnd_after furnished (tool.symm ▸ ends) lines, fun typed same => ?_⟩
  · have fit := Loop.fit_after { machine := m', names, hosts := [host] } lines turns
    refine ⟨fit.own, List.nodup_iff_count_le_one.1 fit.nodup_told, fun n summary shown =>
      Loop.reported_after _ lines turns shown, (start.after turns).repl.printed_text,
      fun status exited => ?_, ?_, fun stuck ends => ?_⟩
    · obtain ⟨zero, line, summary, last, shown, answer⟩ :=
        Loop.answered_of_exited (l := start.after turns) rfl nonempty exited
      refine ⟨zero, ?_, line, summary, last, shown, answer, ?_⟩
      · exact List.count_eq_one_of_mem fit.nodup_told (List.mem_map_of_mem (f := Prod.fst) shown)
      · obtain ⟨e, -, -, ⟨-, rfl⟩ | ⟨-, atZero, range, rfl⟩⟩ := answer.cases
        all_goals simp
    · have gains : start.gains turns + (start.after turns).left host.retries ≤
          start.left host.retries :=
        Loop.gains_le (Loop.fit_start _ lines) furnished found turns
      have all : start.left host.retries = lines.length * (host.retries.toNat + 4) + 1 := by
        simp [start, Loop.start, Loop.left]
      omega
    · cases exited : (start.after turns).status with
      | none =>
        obtain ⟨turn, on⟩ := Loop.exists_getsOn fit exited ends
        exact absurd ((stuck turn).symm.trans on) Bool.false_ne_true
      | some status => rw [(fit.exited status exited).1]
  · obtain ⟨turns, unread, returns, hangs⟩ := Repl.readLoop_exact unused setUp same
    refine ⟨turns, unread, fun ends => ?_, hangs⟩
    obtain ⟨exited, t, m'', returned, zero, out⟩ := returns ends
    exact ⟨exited, t, m'', _, returned, zero, Repl.printed_text _, out⟩

/-- A loop with two lines, the second of them blank. -/
def Loop.hasty : Loop :=
  start
    { machine := (Machine.stocked Moment.flaky).openScratch.2
      names := { base := .default, chance := fun _ => ⟨0, 0⟩ }
      hosts := [.stocked 3] } [['x'], [' ']]

/-- Turns in which the second line is read before the first is finished. -/
def Turn.hasty : List Turn :=
  [.read, .work 0, .read, .work 0, .work 1, .present 0, .work 1, .work 1, .present 1, .exit]

/-- The blank line supersedes the other, and the default expression is answered. If both lines are
typed at once, the program returns with status zero. -/
theorem reports_of_flaky :
    (Loop.hasty.after Turn.hasty).status = some 0 ∧
      (Loop.hasty.after Turn.hasty).told = [1, 0] ∧
      (∃ summary, (1, summary) ∈ (Loop.hasty.after Turn.hasty).repl.shown ∧
        Loop.hasty.Answered 1 defaultExpression summary Turn.hasty) ∧
      ∃ t m', readLoop (.stocked Moment.flaky) (fun _ => ⟨0, 0⟩) (.stocked 3)
        [⟨[120, 10, 32, 10], .answered⟩] = some (t, m') ∧ t.status = 0 := by
  have exited : (Loop.hasty.after Turn.hasty).status = some 0 := by decide +kernel
  have told : (Loop.hasty.after Turn.hasty).told = [1, 0] := by decide +kernel
  have ends : (Machine.stocked Moment.flaky).tool.Ends := by
    intro earlier call killed
    simp [Machine.stocked, Machine.bare, Moment.flaky]
  obtain ⟨reports, -, runsEnd, returns⟩ :=
    reports_exact (Machine.unused_stocked Moment.flaky)
      (Host.setUp_stocked Moment.flaky 3) [['x'], [' ']] (by simp)
  obtain ⟨-, -, line, summary, last, shown, answer, -⟩ := (reports Turn.hasty).exited 0 exited
  obtain rfl : [' '] = line := Option.some.inj last
  refine ⟨exited, told, ⟨summary, shown, answer⟩, ?_⟩
  obtain ⟨turns, -, returned, -⟩ := returns [⟨[120, 10, 32, 10], .answered⟩] (by decide)
  obtain ⟨-, t, m', -, ran, zero, -⟩ := returned (runsEnd ends turns)
  exact ⟨t, m', ran, zero⟩

end Plotter.CommandLine
