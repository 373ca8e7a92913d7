import Plotter.CommandLine.Repl
import Plotter.Proofs.Naming
import Plotter.Proofs.Session.Pursuit
import Plotter.Proofs.Session.Supersession
import Plotter.Proofs.Session.Tenants
import Plotter.Proofs.Text.Utf8

/-!
# The read loop, turn by turn

In the read loop lines are read, tasks are worked on, and finished lines are shown, by parties
that wait for nothing but what they need: the reader for the next line, a task for its compiler,
and whoever shows a line for that line. Here they take turns in any order (`Loop.step`). A turn
is one of the small steps of `Repl.move`, or something that happens beside the loop; and when no
line is left and the last one was shown, the loop may exit.

A turn is made of events of the loop's session (`Loop.reaches_step`), so all that is known of
sessions holds in the read loop.

## What is proved

* `Loop.fit_after`: each line that was read has a task that works on its expression, or was shown,
  and not both; and no task has another expression.
* `Loop.onward`: what a turn makes of a task.

## Honest scope

A turn is taken whole. A task that is in the middle of a step when the next line is read has
taken that step before, or never takes it; and a line is shown with nothing else in between.
-/

namespace Plotter.CommandLine

open Moment (Reaches Leads)

/-- What can happen next in the read loop. -/
inductive Turn
  /-- The next line is read and entered. -/
  | read
  /-- The task of a line begins, goes on, or stops. -/
  | work (ticket : Nat)
  /-- A line is shown, if it is finished. -/
  | present (ticket : Nat)
  /-- Time passes. -/
  | pass (time : Nat)
  /-- The files of the machine change. -/
  | edit (files : Files)
  /-- What the runs that are over have left is there. -/
  | land
  /-- The loop exits, if no line is left and the last one was shown. -/
  | exit

/-- The read loop, the lines that were not read yet, and the status with which it exited. -/
structure Loop where
  unread : List (List UInt8)
  repl : Repl
  status : Option UInt8 := none

/-- Whether a task can go on by itself, or has to stop. -/
def goesOn : TaskState → Bool
  | .live phase => phase.moves
  | .stopping _ => true
  | .superseded => false

namespace Loop

/-- The read loop before its first line. -/
def start (w : Workshop) (lines : List (List Char)) : Loop :=
  { unread := lines.map Text.Utf8.encode, repl := { session := { workshop := w } } }

/-- The session of the loop, whose user waits for no request. -/
def moment (l : Loop) : Moment := { session := l.repl.session }

/-- The tickets of the lines that were shown, latest first. -/
def told (l : Loop) : List Nat := l.repl.shown.map Prod.fst

/-- Whether the last line that was read was shown, if there was one. -/
def isAnswered (l : Loop) : Bool :=
  l.repl.session.submitted == 0 || l.told.contains (l.repl.session.submitted - 1)

/-- Read the next line, and enter it. A line that is no text ends the loop. -/
def read (l : Loop) : Loop :=
  match l.unread with
  | [] => l
  | line :: rest =>
    match Text.Utf8.decode line with
    | .ok text => { l with unread := rest, repl := l.repl.move (.enter text) }
    | .error _ => { l with unread := rest, status := some 1 }

/-- Something happens beside the loop. -/
def beside (l : Loop) (e : Event) : Loop :=
  { l with repl.session := (l.moment.react e).session }

/-- What a turn makes of the loop. A turn that cannot be taken changes nothing, and after the
exit none can. -/
def step (l : Loop) (turn : Turn) : Loop :=
  if l.status.isSome then l
  else match turn with
    | .read => l.read
    | .work ticket => { l with repl := l.repl.move (.work ticket) }
    | .present ticket => { l with repl := l.repl.move (.present ticket) }
    | .pass time => l.beside (.wait time)
    | .edit files => l.beside (.edit files)
    | .land => l.beside .land
    | .exit => if l.unread.isEmpty && l.isAnswered then { l with status := some 0 } else l

/-- What a list of turns makes of the loop. -/
def after (l : Loop) (turns : List Turn) : Loop := turns.foldl step l

@[simp] theorem after_nil (l : Loop) : l.after [] = l := rfl

@[simp] theorem after_cons (l : Loop) (turn : Turn) (turns : List Turn) :
    l.after (turn :: turns) = (l.step turn).after turns := rfl

@[simp] theorem after_append (l : Loop) (turns further : List Turn) :
    l.after (turns ++ further) = (l.after turns).after further := List.foldl_append

/-- Whether the loop gets on in a turn: a line is read or shown, a task goes on or stops, or the
loop exits. -/
def getsOn (l : Loop) (turn : Turn) : Bool :=
  l.status.isNone && match turn with
    | .read => !l.unread.isEmpty
    | .work ticket => (l.repl.session.task? ticket).any fun t => goesOn t.state
    | .present ticket => (l.repl.session.task? ticket).any fun t => t.state.isFinished
    | .exit => l.unread.isEmpty && l.isAnswered
    | _ => false

end Loop

/-! ### Turns are made of events -/

/-- A summary leaves the session as it is but for the calls. -/
theorem Repl.summarize_snd (s : Session) (expression : String) (outcome : Outcome) :
    ∃ workshop, (summarize s expression outcome).2 = { s with workshop } := by
  cases outcome with
  | superseded => exact ⟨s.workshop, rfl⟩
  | ready e =>
    simp only [summarize]
    split
    · exact ⟨_, rfl⟩
    · exact ⟨s.workshop, rfl⟩

/-- What is left of a session when the outcome of a task is taken. -/
theorem take_snd {s : Session} {n : Nat} {t : Task} {outcome : Outcome}
    (found : s.task? n = some t) (own : t.outcome? = some outcome) :
    (s.take n).2 = { s with tasks := s.tasks.filter fun t => t.ticket != n } := by
  simp [Session.take, found, own]

/-- The outcome of a task is taken, its function is called while its handle is in a slot, and what
is not needed any more is let go of. -/
theorem leads_summarize {s : Session} {n : Nat} {t : Task} {outcome : Outcome}
    (empty : s.slots = []) (found : s.task? n = some t) (own : t.outcome? = some outcome) :
    Leads ⟨s, none⟩
      ⟨(Repl.summarize (s.take n).2 t.request.expression outcome).2.reclaim, none⟩ := by
  have reclaimed (s' : Session) : Leads ⟨s', none⟩ ⟨s'.reclaim, none⟩ := .one .reclaim rfl rfl
  have taken := take_snd found own
  have collected (slot : Option String) (e : Evaluation) (ready : outcome = .ready e) :
      Leads ⟨s, none⟩ ⟨(s.take n).2.keep e slot, none⟩ := by
    refine .one (.collect n slot) rfl ?_
    simp only [Moment.react, Session.collect_eq, found, Option.bind_some, own, ready, taken]
  cases outcome with
  | superseded =>
    refine Leads.trans (.one (.collect n none) rfl ?_) (reclaimed _)
    simp only [Moment.react, Session.collect_eq, found, Option.bind_some, own, Repl.summarize, taken]
  | ready e =>
    simp only [Repl.summarize]
    split
    · -- The handle is in a slot while it is called, and there was no other slot.
      refine Leads.trans ?_ (reclaimed _)
      refine (collected (some "") e rfl).trans ?_
      refine ((Session.leads_callAll _ none "" SampleDomain.default.points).trans
        (.one (.call "" 0) rfl rfl)).trans (.one (.clear "") rfl ?_)
      rw [taken]
      simp [Moment.react, Session.keep, Session.sample, Session.clearSlot, Session.setSlot,
        Session.slot, empty]
    · exact (collected none e rfl).trans (reclaimed _)

namespace Repl

variable {r : Repl} {n : Nat} {t : Task} {outcome : Outcome}

theorem present_eq (found : r.session.task? n = some t) (own : t.outcome? = some outcome) :
    r.present n =
      { session :=
          (summarize (r.session.take n).2 t.request.expression outcome).2.reclaim
        unshown := r.unshown.filter (· != n)
        shown :=
          (n, (summarize (r.session.take n).2 t.request.expression outcome).1) :: r.shown } := by
  simp [present, found, own]

/-- A line that is not finished is not shown. -/
theorem present_of_unfinished (unfinished : (r.session.task? n).bind Task.outcome? = none) :
    r.present n = r := by
  cases found : r.session.task? n with
  | none => simp [present, found]
  | some t =>
    rw [found, Option.bind_some] at unfinished
    simp [present, found, unfinished]

end Repl

namespace Loop

variable {l : Loop}

/-- **A turn is made of events.** -/
theorem reaches_step (empty : l.repl.session.slots = []) (turn : Turn) :
    Reaches l.moment (l.step turn).moment := by
  have stays : Reaches l.moment l.moment := (Leads.refl _).reaches
  have one (e : Event) {l' : Loop} (same : l.moment.react e = l'.moment) :
      Reaches l.moment l'.moment := ⟨[e], same⟩
  unfold step
  split
  · exact stays
  · cases turn with
    | read =>
      simp only [read]
      split
      · exact stays
      · split
        · exact one (.submit _ _) rfl
        · exact stays
    | work n =>
      simp only [Repl.move, Repl.work]
      split
      · exact one (.stop n) rfl
      · exact one (.proceed n) rfl
    | present n =>
      cases ready : (l.repl.session.task? n).bind Task.outcome? with
      | none =>
        simp only [Repl.move, Repl.present_of_unfinished ready]
        exact stays
      | some outcome =>
        obtain ⟨t, found, own⟩ := Option.bind_eq_some_iff.1 ready
        simp only [Repl.move, Repl.present_eq found own]
        exact (leads_summarize empty found own).reaches
    | pass time => exact one (.wait time) rfl
    | edit files => exact one (.edit files) rfl
    | land => exact one .land rfl
    | exit =>
      dsimp only
      split <;> exact stays

/-! ### The lines that were read -/

/-- Each line that was read has a task that works on its expression, or was shown. -/
structure Fit (w : Workshop) (lines : List (List Char)) (l : Loop) : Prop where
  reached : Reaches (.first w) l.moment
  empty : l.repl.session.slots = []
  labelled : ∀ t ∈ l.repl.session.tasks, t.label = some (toString t.ticket)
  within : l.repl.session.submitted ≤ lines.length
  unread : l.unread = (lines.drop l.repl.session.submitted).map Text.Utf8.encode
  unshown : l.repl.unshown = l.repl.session.tasks.map Task.ticket
  listed : (l.repl.unshown ++ l.told).Perm (List.range l.repl.session.submitted)
  own : ∀ t ∈ l.repl.session.tasks, ∃ line, lines[t.ticket]? = some line ∧
    t.request = ⟨0, expressionOfLine line⟩
  exited : ∀ status, l.status = some status →
    status = 0 ∧ l.unread = [] ∧ l.isAnswered = true

variable {w : Workshop} {lines : List (List Char)}

theorem Fit.ordered (h : l.Fit w lines) :
    l.repl.session.Numbered ∧ l.repl.session.InPlace := by
  obtain ⟨events, same⟩ := h.reached
  have numbered := Moment.numbered_after w events
  have place := Moment.inPlace_after w events
  rw [same] at numbered place
  exact ⟨numbered, place⟩

theorem Fit.steady (h : l.Fit w lines) (furnished : w.Furnished) :
    w.Steady l.repl.session.workshop := by
  obtain ⟨events, same⟩ := h.reached
  have steady := Moment.steady_after furnished events
  rwa [same] at steady

theorem Fit.orderly (h : l.Fit w lines) (furnished : w.Furnished) (hosted : 0 < w.hosts.length) :
    l.repl.session.Orderly := by
  obtain ⟨events, same⟩ := h.reached
  have orderly := Moment.orderly_after furnished hosted events
  rwa [same] at orderly

theorem fit_start (w : Workshop) (lines : List (List Char)) : (start w lines).Fit w lines where
  reached := ⟨[], rfl⟩
  empty := rfl
  labelled := by simp [start]
  within := Nat.zero_le _
  unread := rfl
  unshown := rfl
  listed := .refl _
  own := by simp [start]
  exited := by simp [start]

/-- The next line is read as the text that it is. -/
theorem Fit.read_eq (h : l.Fit w lines) :
    (l.unread = [] ∧ l.read = l) ∨
      ∃ line, lines[l.repl.session.submitted]? = some line ∧
        l.read =
          { l with
            unread := (lines.drop (l.repl.session.submitted + 1)).map Text.Utf8.encode
            repl := l.repl.enter line } := by
  have unread := h.unread
  rcases Nat.lt_or_eq_of_le h.within with more | all
  · refine .inr ⟨lines[l.repl.session.submitted], List.getElem?_eq_getElem more, ?_⟩
    rw [List.drop_eq_getElem_cons more, List.map_cons] at unread
    simp only [read, unread, (Text.Utf8.decode_eq_ok_iff _ _).2 rfl, Repl.move]
  · rw [List.drop_eq_nil_of_le (Nat.le_of_eq all.symm), List.map_nil] at unread
    exact .inl ⟨unread, by simp [read, unread]⟩

/-- The tasks after a line is entered: no task has the new one's label. -/
theorem Fit.tasks_enter (h : l.Fit w lines) (line : List Char) :
    (l.repl.enter line).session.tasks =
      l.repl.session.stopInFlight.tasks ++
        [⟨l.repl.session.submitted, some (toString l.repl.session.submitted),
          ⟨0, expressionOfLine line⟩, .live .queued⟩] := by
  simp only [Repl.enter, Session.submit]
  congr 1
  refine (List.map_congr_left fun t member => ?_).trans (List.map_id' _)
  rw [if_neg]
  intro same
  obtain ⟨u, there, rfl⟩ := List.mem_map.1 member
  have label : (if l.repl.session.inFlight = some u.ticket then { u with state := u.state.stop }
      else u).label = some (toString u.ticket) := by
    split <;> exact h.labelled u there
  rw [label] at same
  have ticket := Nat.repr_injective (Option.some.inj same)
  have below := h.ordered.1.below u there
  omega

/-- The tasks after a line is shown. -/
theorem Fit.tasks_present (h : l.Fit w lines) {n : Nat} {t : Task} {outcome : Outcome}
    (found : l.repl.session.task? n = some t) (own : t.outcome? = some outcome) :
    (l.repl.present n).session.tasks = l.repl.session.tasks.filter fun t => t.ticket != n := by
  obtain ⟨workshop, same⟩ :=
    Repl.summarize_snd (l.repl.session.take n).2 t.request.expression outcome
  rw [Repl.present_eq found own, same, take_snd found own]
  refine List.filter_eq_self.2 fun t member => ?_
  simp [h.labelled t (List.mem_filter.1 member).1]

/-! ### What a turn can do -/

/-- What a turn can do: nothing, something beside the loop, or one of the turns in which the loop
gets on. -/
inductive Steps (lines : List (List Char)) (l : Loop) : Turn → Loop → Prop
  | stays {turn : Turn} (idle : l.getsOn turn = false) : Steps lines l turn l
  | beside {turn : Turn} {workshop : Workshop} (idle : l.getsOn turn = false) :
      Steps lines l turn { l with repl.session.workshop := workshop }
  | read {line : List Char} (running : l.status = none)
      (next : lines[l.repl.session.submitted]? = some line) :
      Steps lines l .read
        { l with
          unread := (lines.drop (l.repl.session.submitted + 1)).map Text.Utf8.encode
          repl := l.repl.enter line }
  | stop {t : Task} {phase : Phase} (running : l.status = none) (member : t ∈ l.repl.session.tasks)
      (stopping : t.state = .stopping phase) :
      Steps lines l (.work t.ticket) { l with repl.session := l.repl.session.stop t.ticket }
  | proceed {t : Task} {phase : Phase} (running : l.status = none)
      (member : t ∈ l.repl.session.tasks) (live : t.state = .live phase)
      (moves : phase.moves = true) :
      Steps lines l (.work t.ticket) { l with repl.session := l.repl.session.proceed t.ticket }
  | present {t : Task} {outcome : Outcome} (running : l.status = none)
      (found : l.repl.session.task? t.ticket = some t) (own : t.outcome? = some outcome) :
      Steps lines l (.present t.ticket) { l with repl := l.repl.present t.ticket }
  | exit (running : l.status = none) (unread : l.unread = []) (answered : l.isAnswered = true) :
      Steps lines l .exit { l with status := some 0 }

/-- A task that is stuck does not change when it is worked on. -/
theorem proceed_of_stuck {s : Session} (numbered : s.Numbered) {t : Task} {phase : Phase}
    (member : t ∈ s.tasks) (live : t.state = .live phase) (stuck : phase.moves = false) :
    s.proceed t.ticket = s := by
  have found := numbered.task?_eq member
  have same := numbered.setState_self found
  rw [live] at same
  simp only [Session.proceed, found, Session.advanceTask, live,
    Workshop.advance_of_stuck _ _ stuck]
  exact congrArg (fun tasks => { s with tasks }) same

theorem Fit.steps_work (h : l.Fit w lines) (running : l.status = none) (n : Nat) :
    l.Steps lines (.work n) { l with repl := l.repl.work n } := by
  cases found : l.repl.session.task? n with
  | none =>
    have same : l.repl.work n = l.repl := by simp [Repl.work, found, Session.proceed]
    rw [same]
    exact .stays (by simp [getsOn, found])
  | some t =>
    obtain rfl := Session.ticket_of_task? found
    have member := Session.mem_of_task? found
    cases state : t.state with
    | stopping phase =>
      have same : l.repl.work t.ticket =
          { l.repl with session := l.repl.session.stop t.ticket } := by
        simp [Repl.work, found, state]
      rw [same]
      exact .stop running member state
    | live phase =>
      have same : l.repl.work t.ticket =
          { l.repl with session := l.repl.session.proceed t.ticket } := by
        simp [Repl.work, found, state]
      rw [same]
      cases moves : phase.moves with
      | true => exact .proceed running member state moves
      | false =>
        rw [proceed_of_stuck h.ordered.1 member state moves]
        exact .stays (by simp [getsOn, found, state, goesOn, moves])
    | superseded =>
      have same : l.repl.work t.ticket = l.repl := by
        simp [Repl.work, found, state, Session.proceed, Session.advanceTask]
      rw [same]
      exact .stays (by simp [getsOn, found, state, goesOn])

theorem steps_present (running : l.status = none) (n : Nat) :
    l.Steps lines (.present n) { l with repl := l.repl.present n } := by
  cases ready : (l.repl.session.task? n).bind Task.outcome? with
  | none =>
    rw [Repl.present_of_unfinished ready]
    refine .stays ?_
    cases found : l.repl.session.task? n with
    | none => simp [getsOn, found]
    | some t =>
      rw [found, Option.bind_some] at ready
      have unfinished := Moment.isSome_outcome? t
      simp [ready] at unfinished
      simp [getsOn, found, unfinished]
  | some outcome =>
    obtain ⟨t, found, own⟩ := Option.bind_eq_some_iff.1 ready
    obtain rfl := Session.ticket_of_task? found
    exact .present running found own

/-- **What a turn can do.** -/
theorem Fit.steps (h : l.Fit w lines) (turn : Turn) : l.Steps lines turn (l.step turn) := by
  unfold step
  split
  · rename_i exited
    exact .stays (by simp [getsOn, Option.isNone_eq_false_iff.2 exited])
  · rename_i running
    have running : l.status = none := by simpa using running
    cases turn with
    | read =>
      dsimp only
      rcases h.read_eq with ⟨unread, same⟩ | ⟨line, next, same⟩
      · rw [same]
        exact .stays (by simp [getsOn, unread])
      · rw [same]
        exact .read running next
    | work n => exact h.steps_work running n
    | present n => exact steps_present running n
    | pass time => exact .beside (by simp [getsOn])
    | edit files => exact .beside (by simp [getsOn])
    | land => exact .beside (by simp [getsOn])
    | exit =>
      dsimp only
      split
      · rename_i ready
        obtain ⟨unread, answered⟩ := Bool.and_eq_true_iff.1 ready
        exact .exit running (List.isEmpty_iff.1 unread) answered
      · rename_i unready
        exact .stays (by simp [getsOn, Bool.eq_false_iff.2 unready])

/-! ### Tasks from turn to turn -/

/-- How a task stands after a turn. -/
inductive Onward (l : Loop) (u : Task) : Turn → TaskState → Prop
  | stays (turn : Turn) : Onward l u turn u.state
  /-- It is told to stop, since the next line is read before it is completed. -/
  | told {phase : Phase} (live : u.state = .live phase) (undone : phase.isDone = false)
      (last : u.ticket + 1 = l.repl.session.submitted) (next : l.getsOn .read = true) :
      Onward l u .read (.stopping phase)
  | stops {phase : Phase} (stopping : u.state = .stopping phase) :
      Onward l u (.work u.ticket) .superseded
  | advances {phase : Phase} (live : u.state = .live phase) :
      Onward l u (.work u.ticket) (.live (l.repl.session.workshop.advance u.request phase).1)

/-- A task with the ticket, the label and the request of an earlier one. -/
def Follows (l : Loop) (turn : Turn) (t : Task) : Prop :=
  ∃ u ∈ l.repl.session.tasks, t.ticket = u.ticket ∧ t.label = u.label ∧ t.request = u.request ∧
    l.Onward u turn t.state

theorem follows_self {turn : Turn} {t : Task} (member : t ∈ l.repl.session.tasks) :
    l.Follows turn t :=
  ⟨t, member, rfl, rfl, rfl, .stays turn⟩

/-- A task that is in flight when the next line is read is told to stop, unless it is completed. -/
theorem Fit.follows_stop (h : l.Fit w lines) {u : Task} (there : u ∈ l.repl.session.tasks)
    (inFlight : l.repl.session.inFlight = some u.ticket) (next : l.getsOn .read = true) :
    l.Follows .read { u with state := u.state.stop } := by
  obtain ⟨numbered, place⟩ := h.ordered
  obtain ⟨phase, live⟩ := place.live u there inFlight
  refine ⟨u, there, rfl, rfl, rfl, ?_⟩
  dsimp only
  cases done : phase.isDone with
  | true =>
    have same : u.state.stop = u.state := by simp [live, TaskState.stop, done]
    rw [same]
    exact .stays .read
  | false =>
    have told : u.state.stop = .stopping phase := by simp [live, TaskState.stop, done]
    rw [told]
    exact .told live done (place.last _ inFlight) next

/-- When one task is worked on, the others are as they were. -/
theorem follows_work (numbered : l.repl.session.Numbered) {v t : Task}
    (there : v ∈ l.repl.session.tasks) (next : Task → TaskState)
    (onward : l.Onward v (.work v.ticket) (next v))
    (member : t ∈ l.repl.session.tasks.map fun u =>
      if u.ticket = v.ticket then { u with state := next u } else u) :
    l.Follows (.work v.ticket) t := by
  obtain ⟨u, among, rfl⟩ := List.mem_map.1 member
  split
  · rename_i same
    obtain rfl := numbered.eq_of_ticket there among same
    exact ⟨u, there, rfl, rfl, rfl, onward⟩
  · exact follows_self among

/-- **What a turn makes of the tasks.** A task that is there after a turn is that of the line
that was read, or was there before. -/
theorem Fit.onward (h : l.Fit w lines) {turn : Turn} {t : Task}
    (member : t ∈ (l.step turn).repl.session.tasks) :
    (∃ line, turn = .read ∧ lines[l.repl.session.submitted]? = some line ∧
      t = ⟨l.repl.session.submitted, some (toString l.repl.session.submitted),
        ⟨0, expressionOfLine line⟩, .live .queued⟩) ∨ l.Follows turn t := by
  have numbered := h.ordered.1
  have steps := h.steps turn
  generalize l.step turn = l' at steps member
  cases steps with
  | stays idle => exact .inr (follows_self member)
  | beside idle => exact .inr (follows_self member)
  | @read line running next =>
    have more : l.unread ≠ [] := by
      simpa [h.unread] using (List.getElem?_eq_some_iff.1 next).1
    dsimp only at member
    rw [h.tasks_enter, List.mem_append, List.mem_singleton] at member
    rcases member with old | new
    · obtain ⟨u, there, rfl⟩ := List.mem_map.1 old
      split
      · rename_i inFlight
        exact .inr (h.follows_stop there inFlight (by simp [getsOn, running, more]))
      · exact .inr (follows_self there)
    · exact .inl ⟨line, rfl, next, new⟩
  | @stop v phase running there stopping =>
    have halted : v.state.halt = .superseded := by simp [stopping, TaskState.halt]
    dsimp only at member
    rw [numbered.tasks_stop] at member
    exact .inr (follows_work numbered there (fun t => t.state.halt)
      (halted ▸ .stops stopping) member)
  | @proceed v phase running there live moves =>
    have advanced : l.repl.session.stepState v =
        .live (l.repl.session.workshop.advance v.request phase).1 := by
      simp [Session.stepState, live]
    dsimp only at member
    rw [numbered.tasks_proceed] at member
    exact .inr (follows_work numbered there l.repl.session.stepState
      (advanced ▸ .advances live) member)
  | @present v outcome running found own =>
    dsimp only at member
    rw [h.tasks_present found own] at member
    exact .inr (follows_self (List.mem_filter.1 member).1)
  | exit running unread answered => exact .inr (follows_self member)

/-! ### Every turn -/

theorem submitted_present (r : Repl) (n : Nat) :
    (r.present n).session.submitted = r.session.submitted ∧
      (r.session.slots = [] → (r.present n).session.slots = []) := by
  cases ready : (r.session.task? n).bind Task.outcome? with
  | none => simp [Repl.present_of_unfinished ready]
  | some outcome =>
    obtain ⟨t, found, own⟩ := Option.bind_eq_some_iff.1 ready
    obtain ⟨workshop, same⟩ := Repl.summarize_snd (r.session.take n).2 t.request.expression outcome
    rw [Repl.present_eq found own, same, take_snd found own]
    exact ⟨rfl, id⟩

/-- The lines that were not shown are those that have tasks. -/
theorem Fit.unshown_step (h : l.Fit w lines) (turn : Turn) :
    (l.step turn).repl.unshown = (l.step turn).repl.session.tasks.map Task.ticket := by
  have numbered := h.ordered.1
  have unshown := h.unshown
  have steps := h.steps turn
  generalize l.step turn = l' at steps ⊢
  have mapped {f : Task → Task} (same : ∀ t, (f t).ticket = t.ticket) :
      l.repl.unshown = (l.repl.session.tasks.map f).map Task.ticket := by
    rw [unshown]
    simp [same]
  cases steps with
  | stays idle => exact unshown
  | beside idle => exact unshown
  | read running next => simp only [Repl.enter, Session.tickets_submit, unshown]
  | stop running there stopping =>
    dsimp only
    rw [numbered.tasks_stop]
    exact mapped fun t => by split <;> rfl
  | proceed running there live moves =>
    dsimp only
    rw [numbered.tasks_proceed]
    exact mapped fun t => by split <;> rfl
  | present running found own =>
    dsimp only
    rw [h.tasks_present found own, Repl.present_eq found own, unshown, List.filter_map]
    rfl
  | exit running unread answered => exact unshown

/-- A line that was read is shown once, or not yet. -/
theorem Fit.listed_step (h : l.Fit w lines) (turn : Turn) :
    ((l.step turn).repl.unshown ++ (l.step turn).told).Perm
      (List.range (l.step turn).repl.session.submitted) := by
  have distinct := h.ordered.1.distinct
  have listed := h.listed
  have steps := h.steps turn
  generalize l.step turn = l' at steps ⊢
  cases steps with
  | stays idle => exact listed
  | beside idle => exact listed
  | read running next =>
    simp only [Repl.enter, told, List.append_assoc, List.singleton_append]
    refine (List.perm_middle.trans (listed.cons _)).trans ?_
    change List.Perm _ (List.range (l.repl.session.submitted + 1))
    rw [List.range_succ]
    exact (List.perm_append_singleton ..).symm
  | stop running there stopping =>
    dsimp only
    rw [Session.submitted_stop]
    exact listed
  | proceed running there live moves =>
    dsimp only
    rw [Session.submitted_proceed]
    exact listed
  | @present t outcome running found own =>
    have there : t.ticket ∈ l.repl.unshown := by
      rw [h.unshown]
      exact List.mem_map_of_mem (Session.mem_of_task? found)
    rw [← h.unshown] at distinct
    simp only [told, (submitted_present l.repl t.ticket).1]
    rw [Repl.present_eq found own, List.map_cons, ← distinct.erase_eq_filter]
    refine List.perm_middle.trans ?_
    rw [← List.cons_append]
    exact ((List.perm_cons_erase there).symm.append_right _).trans listed
  | exit running unread answered => exact listed

/-- What no task has a part in: the slots, the lines that were not read, and the status. -/
theorem Fit.rest_step (h : l.Fit w lines) (turn : Turn) :
    (l.step turn).repl.session.slots = [] ∧
      (l.step turn).repl.session.submitted ≤ lines.length ∧
      (l.step turn).unread =
        (lines.drop (l.step turn).repl.session.submitted).map Text.Utf8.encode ∧
      ∀ status, (l.step turn).status = some status →
        status = 0 ∧ (l.step turn).unread = [] ∧ (l.step turn).isAnswered = true := by
  have steps := h.steps turn
  generalize l.step turn = l' at steps ⊢
  have unexited {P : UInt8 → Prop} (running : l.status = none) (status : UInt8)
      (exited : l.status = some status) : P status := by
    simp [running] at exited
  cases steps with
  | stays idle => exact ⟨h.empty, h.within, h.unread, h.exited⟩
  | beside idle => exact ⟨h.empty, h.within, h.unread, h.exited⟩
  | read running next =>
    exact ⟨h.empty, (List.getElem?_eq_some_iff.1 next).1, rfl, unexited running⟩
  | stop running there stopping =>
    dsimp only
    rw [Moment.slots_stop, Session.submitted_stop]
    exact ⟨h.empty, h.within, h.unread, unexited running⟩
  | proceed running there live moves =>
    dsimp only
    rw [Moment.slots_proceed, Session.submitted_proceed]
    exact ⟨h.empty, h.within, h.unread, unexited running⟩
  | @present t outcome running found own =>
    obtain ⟨submitted, slots⟩ := submitted_present l.repl t.ticket
    dsimp only
    rw [submitted]
    exact ⟨slots h.empty, h.within, h.unread, unexited running⟩
  | exit running unread answered =>
    refine ⟨h.empty, h.within, h.unread, fun status exited => ?_⟩
    exact ⟨(Option.some.inj exited).symm, unread, answered⟩

/-- **The invariant of the read loop.** -/
theorem Fit.step (h : l.Fit w lines) (turn : Turn) : (l.step turn).Fit w lines := by
  obtain ⟨empty, within, unread, exited⟩ := h.rest_step turn
  have labelled : ∀ t ∈ (l.step turn).repl.session.tasks, t.label = some (toString t.ticket) := by
    intro t member
    rcases h.onward member with ⟨line, -, -, rfl⟩ | ⟨u, there, ticket, label, -⟩
    · rfl
    · rw [label, ticket]
      exact h.labelled u there
  have own : ∀ t ∈ (l.step turn).repl.session.tasks, ∃ line, lines[t.ticket]? = some line ∧
      t.request = ⟨0, expressionOfLine line⟩ := by
    intro t member
    rcases h.onward member with ⟨line, -, next, rfl⟩ | ⟨u, there, ticket, -, request, -⟩
    · exact ⟨line, next, rfl⟩
    · rw [ticket, request]
      exact h.own u there
  exact ⟨h.reached.trans (reaches_step h.empty turn), empty, labelled, within, unread,
    h.unshown_step turn, h.listed_step turn, own, exited⟩

theorem Fit.after (h : l.Fit w lines) (turns : List Turn) : (l.after turns).Fit w lines := by
  induction turns generalizing l with
  | nil => exact h
  | cons turn turns ih => exact ih (h.step turn)

theorem fit_after (w : Workshop) (lines : List (List Char)) (turns : List Turn) :
    ((start w lines).after turns).Fit w lines :=
  (fit_start w lines).after turns

/-- Every run of the compiler that a task waits for, and that is not to be killed, ends. -/
def RunsEnd (l : Loop) : Prop :=
  ∀ t ∈ l.repl.session.tasks, ∀ retried c, t.state = .live (.compiling retried c) →
    ∀ killed, c.response ≠ .started .endless killed

end Loop

end Plotter.CommandLine
