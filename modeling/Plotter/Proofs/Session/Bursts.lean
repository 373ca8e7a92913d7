import Plotter.Proofs.Session.Attempts
import Plotter.Proofs.Session.Supersession

/-!
# Bursts of background requests

Tasks begin, go on and stop only while the user waits. Requests that come in between two such
times, with the cancellations among them, are a *burst*. Each of them is told to stop by the next
order, when it has not begun; so nothing comes of any of them but of the last, and that one goes
on as a request does that is pursued alone.

The invariant counts the steps: after `steps` steps of the last request, the workshop and how far
the request has come are those of `Workshop.pursueFor` after as many (`Session.Ahead`). The others
are `Task.AtRest`, and an event of theirs leaves the workshop as it is.

## What is proved

* `Workshop.evaluate_eq_some_iff`: what it takes for a request pursued alone to be answered.
* `Session.not_stopping_poll`: when the user begins to wait, whoever was told to stop does so.
* `Session.Ahead.await`: to wait for the last request of a burst is to pursue it alone.
* `Moment.burst_exact`: a burst comes to what a blocking evaluation of its last request comes to,
  whatever the order in which the tasks take their turns, and every other request of the burst is
  superseded without having done anything.
-/

namespace Plotter

/-! ### A request that is pursued alone -/

namespace Workshop

variable {w : Workshop} {r : Request} {host : Host}

/-- The last of several steps. -/
theorem pursueFor_succ (r : Request) (steps : Nat) (w : Workshop) (phase : Phase) :
    pursueFor r (steps + 1) w phase =
      (pursueFor r steps w phase).2.advance r (pursueFor r steps w phase).1 := by
  induction steps generalizing w phase with
  | zero =>
    simp only [pursueFor]
    split
    · rfl
    · rename_i stuck
      exact (w.advance_of_stuck r (Bool.not_eq_true _ ▸ stuck)).symm
  | succ steps ih =>
    rw [pursueFor]
    cases moves : phase.moves with
    | true =>
      simp only [if_true]
      rw [ih, pursueFor, if_pos moves]
    | false =>
      simp only [Bool.false_eq_true, if_false]
      rw [pursueFor, if_neg (by simp [moves])]
      exact (w.advance_of_stuck r moves).symm

/-- A request that can go no further has got there for good. -/
theorem pursueFor_of_stuck {steps : Nat} {phase : Phase}
    (stuck : (pursueFor r steps w phase).1.moves = false) {more : Nat} (le : steps ≤ more) :
    pursueFor r more w phase = pursueFor r steps w phase := by
  induction more, le using Nat.le_induction with
  | base => rfl
  | succ more le ih => rw [pursueFor_succ, ih, advance_of_stuck _ _ stuck]

/-- No step changes the hosts. -/
theorem steady_pursueFor (ready : w.Ready) (r : Request) (steps : Nat) (phase : Phase) :
    w.Steady (pursueFor r steps w phase).2 := by
  induction steps with
  | zero => exact .refl w
  | succ steps ih =>
    rw [pursueFor_succ]
    exact ih.trans (advance_steady (ih.ready ready) r _)

theorem moves_pursue (ready : w.Ready) (found : w.hosts[r.host]? = some host) :
    (w.pursue r .queued).1.moves = false := by
  refine moves_pursueFor ready found ?_
  simp only [stepBound, found]
  exact Phase.left_le ..

/-- A request that can go no further has come as far as it goes. -/
theorem pursueFor_eq_pursue (ready : w.Ready) (found : w.hosts[r.host]? = some host) {steps : Nat}
    (enough : w.stepBound r ≤ steps ∨ (pursueFor r steps w .queued).1.moves = false) :
    pursueFor r steps w .queued = w.pursue r .queued := by
  have stuck : (pursueFor r (w.stepBound r) w .queued).1.moves = false := moves_pursue ready found
  rcases enough with le | stuck'
  · exact pursueFor_of_stuck stuck le
  · rcases Nat.le_total (w.stepBound r) steps with le | le
    · exact pursueFor_of_stuck stuck le
    · exact (pursueFor_of_stuck stuck' le).symm

/-- A request is answered just in case it comes to its end when it is pursued. -/
theorem evaluate_eq_some_iff {e : Evaluation} {w' : Workshop} :
    w.evaluate r = (some e, w') ↔
      e.expression = r.expression ∧ w.pursue r .queued = (.done e.verdict, w') := by
  unfold evaluate
  generalize w.pursue r .queued = ended
  obtain ⟨phase, w''⟩ := ended
  obtain ⟨expression, verdict⟩ := e
  cases phase with
  | done verdict' => simp [eq_comm, and_assoc]
  | queued => simp
  | compiling retried c => simp

end Workshop

/-- Whether a task takes a turn in an event: to stop, or to go on by one step. -/
def Event.isTurn : Event → Bool
  | .stop _ | .proceed _ => true
  | _ => false

/-! ### Tasks that do nothing -/

/-- Nothing comes of a task's turns: it was finished before the tickets from `first` on were
given, or has one of these and was told to stop before it began. -/
def Task.AtRest (first : Nat) (t : Task) : Prop :=
  (t.ticket < first ∧ t.state.isFinished = true) ∨
    (first ≤ t.ticket ∧ (t.state = .stopping .queued ∨ t.state = .superseded))

namespace Task.AtRest

variable {first : Nat} {t : Task}

theorem halt (h : t.AtRest first) : AtRest first { t with state := t.state.halt } := by
  obtain ⟨old, finished⟩ | ⟨new, stopping | superseded⟩ := h
  · refine .inl ⟨old, ?_⟩
    cases state : t.state with
    | live phase => simpa [state, TaskState.halt] using finished
    | stopping phase => simp [state, TaskState.isFinished] at finished
    | superseded => rfl
  · exact .inr ⟨new, .inr (by simp [stopping, TaskState.halt])⟩
  · exact .inr ⟨new, .inr (by simp [superseded, TaskState.halt])⟩

theorem stop (h : t.AtRest first) : AtRest first { t with state := t.state.stop } := by
  obtain ⟨old, finished⟩ | ⟨new, stopping | superseded⟩ := h
  · refine .inl ⟨old, ?_⟩
    cases state : t.state with
    | live phase =>
      have done : phase.isDone = true := by simpa [state, TaskState.isFinished] using finished
      simp [TaskState.stop, done, TaskState.isFinished]
    | stopping phase => simp [state, TaskState.isFinished] at finished
    | superseded => rfl
  · exact .inr ⟨new, .inl (by simp [stopping, TaskState.stop])⟩
  · exact .inr ⟨new, .inr (by simp [superseded, TaskState.stop])⟩

/-- A step leaves such a task, and the workshop, as they are. -/
theorem advance (h : t.AtRest first) {phase : Phase} (live : t.state = .live phase)
    (w : Workshop) (r : Request) : w.advance r phase = (phase, w) := by
  obtain ⟨-, finished⟩ | ⟨-, stopping | superseded⟩ := h
  · rw [live] at finished
    cases phase with
    | done verdict => exact w.advance_done r verdict
    | queued => simp [TaskState.isFinished, Phase.isDone] at finished
    | compiling retried c => simp [TaskState.isFinished, Phase.isDone] at finished
  · simp [live] at stopping
  · simp [live] at superseded

/-- It is a matter of the ticket and of how the task stands. -/
theorem congr {u : Task} (h : u.AtRest first) (ticket : u.ticket = t.ticket)
    (state : t.state = u.state) : t.AtRest first := by
  unfold Task.AtRest
  rw [← ticket, state]
  exact h

theorem stepState (h : t.AtRest first) (s : Session) : s.stepState t = t.state := by
  unfold Session.stepState
  split
  · rename_i phase live
    rw [h.advance live, live]
  · rfl

/-- The run of a task that has not begun is none. -/
theorem abandon (h : t.AtRest first) {phase : Phase} (stopping : t.state = .stopping phase)
    (w : Workshop) (r : Request) : w.abandon r phase = w := by
  obtain ⟨-, finished⟩ | ⟨-, unbegun | superseded⟩ := h
  · simp [stopping, TaskState.isFinished] at finished
  · obtain rfl : phase = .queued := TaskState.stopping.inj (stopping.symm.trans unbegun)
    unfold Workshop.abandon
    split
    · rename_i compiling
      simp at compiling
    · rfl
  · simp [stopping] at superseded

/-- The only outcome that such a task can have, if its ticket is one of those. -/
theorem outcome_eq (h : t.AtRest first) (new : first ≤ t.ticket) {outcome : Outcome}
    (own : t.outcome? = some outcome) : outcome = .superseded := by
  obtain ⟨old, -⟩ | ⟨-, stopping | superseded⟩ := h
  · exact absurd new (Nat.not_le_of_lt old)
  · simp [outcome?, stopping] at own
  · simpa [outcome?, superseded] using own.symm

end Task.AtRest

namespace Session

variable {s : Session}

/-! ### Polling -/

/-- A task that is told to stop and has been polled has stopped, and no other is told to. -/
theorem stopping_pollTask (h : s.Numbered) (n : Nat) {t : Task} (member : t ∈ (s.pollTask n).tasks)
    {phase : Phase} (stopping : t.state = .stopping phase) :
    t.ticket ≠ n ∧ ∃ u ∈ s.tasks, u.ticket = t.ticket ∧ u.state = .stopping phase := by
  have polled : ∀ u ∈ s.tasks, u.ticket = n → s.task? n = some u := by
    rintro u there rfl
    exact h.task?_eq there
  unfold pollTask at member
  split at member
  · rw [h.tasks_stop, List.mem_map] at member
    obtain ⟨u, there, rfl⟩ := member
    split at stopping
    · cases state : u.state <;> simp [state, TaskState.halt] at stopping
    · rename_i other
      rw [if_neg other]
      exact ⟨other, u, there, rfl, stopping⟩
  · rename_i queued
    rw [h.tasks_proceed, List.mem_map] at member
    obtain ⟨u, there, rfl⟩ := member
    split at stopping
    · rename_i own
      have state : u.state = .live .queued := by
        simpa [polled u there own] using queued
      simp [stepState, state] at stopping
    · rename_i other
      rw [if_neg other]
      exact ⟨other, u, there, rfl, stopping⟩
  · rename_i unstopping _
    refine ⟨fun own => unstopping phase ?_, t, member, rfl, stopping⟩
    rw [polled t member own]
    exact congrArg some stopping

theorem Numbered.pollTask (h : s.Numbered) (n : Nat) : (s.pollTask n).Numbered := by
  unfold Session.pollTask
  split
  · exact h.stop n
  · exact h.proceed n
  · exact h

/-- **When the user begins to wait, whoever was told to stop does so.** -/
theorem not_stopping_poll (h : s.Numbered) {t : Task} (member : t ∈ s.poll.tasks) (phase : Phase) :
    t.state ≠ .stopping phase := by
  -- Those still told to stop are among those that are still to be polled.
  have fold : ∀ (tickets : List Nat) (s : Session), s.Numbered →
      (∀ u ∈ s.tasks, ∀ phase, u.state = .stopping phase → u.ticket ∈ tickets) →
        ∀ u ∈ (tickets.foldl Session.pollTask s).tasks, ∀ phase, u.state ≠ .stopping phase := by
    intro tickets
    induction tickets with
    | nil =>
      intro s _ covered u there phase stopping
      simpa using covered u there phase stopping
    | cons n tickets ih =>
      intro s h covered
      refine ih (s.pollTask n) (h.pollTask n) fun u there phase stopping => ?_
      obtain ⟨other, v, before, ticket, stopping'⟩ := stopping_pollTask h n there stopping
      have covered' := covered v before phase stopping'
      rw [ticket] at covered'
      exact (List.mem_cons.1 covered').resolve_left other
  exact fold _ s h (fun u there _ _ => List.mem_map_of_mem there) t member phase

/-! ### The last request goes on alone -/

/-- Of the requests with tickets from `first` to `last`, the last one has gone on by so many steps
from a workshop, as it does when it is pursued alone, and no other task has done anything. -/
structure Ahead (w : Workshop) (r : Request) (first last steps : Nat) (s : Session) : Prop where
  numbered : s.Numbered
  own : ∃ t, s.task? last = some t ∧ t.request = r ∧
    t.state = .live (Workshop.pursueFor r steps w .queued).1
  workshop : s.workshop = (Workshop.pursueFor r steps w .queued).2
  others : ∀ t ∈ s.tasks, t.ticket ≠ last → t.AtRest first
  present : ∀ n, first ≤ n → n < last → n ∈ s.tasks.map Task.ticket

namespace Ahead

variable {w : Workshop} {r : Request} {host : Host} {first last steps : Nat}

/-- The task with the ticket `last` is no other. -/
theorem rest_of_task? (h : s.Ahead w r first last steps) {n : Nat} (other : n ≠ last) {t : Task}
    (found : s.task? n = some t) : t.AtRest first := by
  refine h.others t (mem_of_task? found) ?_
  rw [ticket_of_task? found]
  exact other

theorem workshop_stop (h : s.Ahead w r first last steps) (n : Nat) :
    (s.stop n).workshop = s.workshop := by
  unfold Session.stop
  split
  · rename_i t found
    unfold stopTask
    split
    · rename_i phase stopping
      by_cases own : n = last
      · subst own
        obtain ⟨u, found', -, live⟩ := h.own
        obtain rfl := Option.some.inj (found.symm.trans found')
        simp [live] at stopping
      · exact (h.rest_of_task? own found).abandon stopping ..
    · rfl
  · rfl

theorem workshop_proceed (h : s.Ahead w r first last steps) {n : Nat} (other : n ≠ last) :
    (s.proceed n).workshop = s.workshop := by
  unfold Session.proceed
  split
  · rename_i t found
    unfold advanceTask
    split
    · rename_i phase live
      rw [(h.rest_of_task? other found).advance live]
      rfl
    · rfl
  · rfl

/-- The tasks change in a way that leaves their tickets, and those that do nothing. -/
theorem map (h : s.Ahead w r first last steps) {s' : Session} (numbered : s'.Numbered)
    {f : Task → Task} (tasks : s'.tasks = s.tasks.map f)
    (same : ∀ t, (f t).ticket = t.ticket ∧ (f t).request = t.request) {steps' : Nat}
    (rest : ∀ t ∈ s.tasks, t.ticket ≠ last → t.AtRest first → (f t).AtRest first)
    (own : ∀ t, s.task? last = some t → t.request = r →
      t.state = .live (Workshop.pursueFor r steps w .queued).1 →
        (f t).state = .live (Workshop.pursueFor r steps' w .queued).1)
    (workshop : s'.workshop = (Workshop.pursueFor r steps' w .queued).2) :
    s'.Ahead w r first last steps' where
  numbered := numbered
  own := by
    obtain ⟨t, found, request, state⟩ := h.own
    have there : f t ∈ s'.tasks := tasks ▸ List.mem_map_of_mem (mem_of_task? found)
    have found' := numbered.task?_eq there
    rw [(same t).1, ticket_of_task? found] at found'
    exact ⟨f t, found', (same t).2.trans request, own t found request state⟩
  workshop := workshop
  others := by
    intro t member other
    rw [tasks, List.mem_map] at member
    obtain ⟨u, there, rfl⟩ := member
    have other' : u.ticket ≠ last := (same u).1 ▸ other
    exact rest u there other' (h.others u there other')
  present := by
    intro n new old
    obtain ⟨t, there, rfl⟩ := List.mem_map.1 (h.present n new old)
    rw [tasks, List.map_map, List.mem_map]
    exact ⟨t, there, (same t).1⟩

theorem stop (h : s.Ahead w r first last steps) (n : Nat) :
    (s.stop n).Ahead w r first last steps := by
  refine h.map (h.numbered.stop n) (h.numbered.tasks_stop n) (fun t => ?_) (fun t _ _ rest => ?_)
    (fun t _ _ live => ?_) ((h.workshop_stop n).trans h.workshop)
  · split <;> exact ⟨rfl, rfl⟩
  · split
    · exact rest.halt
    · exact rest
  · split
    · simp only [live, TaskState.halt]
    · exact live

/-- Whoever takes a step, only a step of the last request is one. -/
theorem proceed (h : s.Ahead w r first last steps) (n : Nat) :
    (s.proceed n).Ahead w r first last (steps + if n = last then 1 else 0) := by
  have same (t : Task) :
      (if t.ticket = n then { t with state := s.stepState t } else t : Task).ticket = t.ticket ∧
        (if t.ticket = n then { t with state := s.stepState t } else t : Task).request =
          t.request := by
    split <;> exact ⟨rfl, rfl⟩
  have rest (t : Task) (rest : t.AtRest first) :
      (if t.ticket = n then { t with state := s.stepState t } else t : Task).AtRest first := by
    rw [rest.stepState s]
    split <;> exact rest
  by_cases own : n = last
  · subst own
    obtain ⟨u, found, request, live⟩ := h.own
    have stepped := Workshop.pursueFor_succ r steps w .queued
    rw [← h.workshop] at stepped
    rw [if_pos rfl]
    refine h.map (h.numbered.proceed n) (h.numbered.tasks_proceed n) same
      (fun t _ _ => rest t) (fun t found' request' live' => ?_) ?_
    · rw [if_pos (ticket_of_task? found')]
      simp only [stepState, live', request', stepped]
    · simp only [Session.proceed, found, advanceTask, live, request, stepped]
      rfl
  · rw [if_neg own, Nat.add_zero]
    refine h.map (h.numbered.proceed n) (h.numbered.tasks_proceed n) same
      (fun t _ _ => rest t) (fun t found' _ live' => ?_)
      ((h.workshop_proceed own).trans h.workshop)
    rw [if_neg (ticket_of_task? found' ▸ Ne.symm own)]
    exact live'

theorem pollTask (h : s.Ahead w r first last steps) (n : Nat) :
    ∃ steps', (s.pollTask n).Ahead w r first last steps' := by
  unfold Session.pollTask
  split
  · exact ⟨steps, h.stop n⟩
  · exact ⟨_, h.proceed n⟩
  · exact ⟨steps, h⟩

theorem poll (h : s.Ahead w r first last steps) : ∃ steps', s.poll.Ahead w r first last steps' := by
  unfold Session.poll
  generalize s.tasks.map Task.ticket = tickets
  induction tickets generalizing s steps with
  | nil => exact ⟨steps, h⟩
  | cons n tickets ih =>
    obtain ⟨steps', polled⟩ := h.pollTask n
    exact ih polled

theorem driveFor (h : s.Ahead w r first last steps) (more : Nat) :
    (Session.driveFor last (fun _ => false) more s).Ahead w r first last (steps + more) := by
  induction more generalizing s steps with
  | zero => exact h
  | succ more ih =>
    obtain ⟨t, found, -, live⟩ := h.own
    simp only [Session.driveFor, Bool.false_eq_true, if_false, found, live]
    split
    · have stepped := ih (h.proceed last)
      rw [if_pos rfl, Nat.add_assoc, Nat.add_comm 1] at stepped
      exact stepped
    · rename_i stuck
      have same := Workshop.pursueFor_of_stuck (Bool.not_eq_true _ ▸ stuck)
        (Nat.le_add_right steps (more + 1))
      exact ⟨h.numbered, by rw [same]; exact h.own, by rw [same]; exact h.workshop, h.others,
        h.present⟩

/-! ### Waiting -/

/-- **To wait for the last request of a burst is to pursue it alone.** -/
theorem await (h : s.Ahead w r first last steps) (ready : w.Ready)
    (found : w.hosts[r.host]? = some host) :
    ∃ steps', (s.await last).Ahead w r first last steps' ∧
      Workshop.pursueFor r steps' w .queued = w.pursue r .queued := by
  unfold Session.await
  split
  · rename_i finished
    obtain ⟨t, there, -, live⟩ := h.own
    simp only [isFinished, there, live, TaskState.isFinished] at finished
    have stuck : (Workshop.pursueFor r steps w .queued).1.moves = false := by
      cases phase : (Workshop.pursueFor r steps w .queued).1 with
      | done verdict => rfl
      | queued => simp [phase, Phase.isDone] at finished
      | compiling retried c => simp [phase, Phase.isDone] at finished
    exact ⟨steps, h, Workshop.pursueFor_eq_pursue ready found (.inr stuck)⟩
  · obtain ⟨steps', polled⟩ := h.poll
    obtain ⟨t, there, request, -⟩ := polled.own
    have bound : s.poll.workshop.stepBound t.request = w.stepBound r := by
      have steady := Workshop.steady_pursueFor ready r steps' .queued
      rw [polled.workshop, request]
      simp only [Workshop.stepBound, steady.hosts]
    simp only [drive, there, bound]
    exact ⟨_, polled.driveFor _, Workshop.pursueFor_eq_pursue ready found (.inl (by omega))⟩

/-- Whoever waits for another request of the burst finds that it was superseded. -/
theorem take_await_other (h : s.Ahead w r first last steps) {n : Nat} (new : first ≤ n)
    (old : n < last) : ((s.await n).take n).1 = some .superseded := by
  have superseded {s : Session} {t : Task} (found : s.task? n = some t)
      (state : t.state = .superseded) : (s.take n).1 = some .superseded := by
    rw [Moment.take_fst, found]
    simp [Task.outcome?, state]
  have idle {s : Session} {steps : Nat} (h : s.Ahead w r first last steps) :
      ∃ t, s.task? n = some t ∧ (t.state = .stopping .queued ∨ t.state = .superseded) := by
    obtain ⟨t, there, rfl, found⟩ := h.numbered.task?_of_ticket (h.present n new old)
    obtain ⟨old', -⟩ | ⟨-, state⟩ := h.others t there (Nat.ne_of_lt old)
    · exact absurd new (Nat.not_le_of_lt old')
    · exact ⟨t, found, state⟩
  obtain ⟨t, found, stopping | already⟩ := idle h
  · obtain ⟨steps', polled⟩ := h.poll
    obtain ⟨u, found', stopping' | now⟩ := idle polled
    · exact absurd stopping' (not_stopping_poll h.numbered (mem_of_task? found') _)
    · have awaited : s.await n = s.poll := by
        simp only [Session.await, isFinished, found, stopping, TaskState.isFinished,
          Bool.false_eq_true, if_false, drive, found']
        cases s.poll.workshop.stepBound u.request with
        | zero => rfl
        | succ more => simp [Session.driveFor, found', now]
      rw [awaited]
      exact superseded found' now
  · have awaited : s.await n = s := by
      simp [Session.await, isFinished, found, already, TaskState.isFinished]
    rw [awaited]
    exact superseded found already

/-- What has an outcome is the evaluation of the last request, pursued alone. -/
theorem evaluate_of_take (h : s.Ahead w r first last steps) (ready : w.Ready)
    (found : w.hosts[r.host]? = some host) {outcome : Outcome}
    (taken : (s.take last).1 = some outcome) :
    ∃ e, outcome = .ready e ∧ w.evaluate r = (some e, s.workshop) := by
  obtain ⟨t, there, request, live⟩ := h.own
  rw [Moment.take_fst, there, Option.bind_some] at taken
  cases phase : (Workshop.pursueFor r steps w .queued).1 with
  | done verdict =>
    have stuck : (Workshop.pursueFor r steps w .queued).1.moves = false := by
      rw [phase]
      rfl
    have ended := Workshop.pursueFor_eq_pursue ready found (.inr stuck)
    simp only [Task.outcome?, live, phase, Option.some.injEq] at taken
    refine ⟨⟨t.request.expression, verdict⟩, taken.symm, Workshop.evaluate_eq_some_iff.2 ?_⟩
    rw [← ended, h.workshop, ← phase]
    exact ⟨congrArg Request.expression request, rfl⟩
  | queued => simp [Task.outcome?, live, phase] at taken
  | compiling retried c => simp [Task.outcome?, live, phase] at taken

/-- If the last request has come as far as it goes, its outcome is its evaluation. -/
theorem take_of_evaluate (h : s.Ahead w r first last steps)
    (ended : Workshop.pursueFor r steps w .queued = w.pursue r .queued) {e : Evaluation}
    {w' : Workshop} (answered : w.evaluate r = (some e, w')) :
    (s.take last).1 = some (.ready e) ∧ s.workshop = w' := by
  obtain ⟨t, there, request, live⟩ := h.own
  obtain ⟨expression, done⟩ := Workshop.evaluate_eq_some_iff.1 answered
  have workshop := h.workshop
  rw [ended, done] at live workshop
  refine ⟨?_, workshop⟩
  rw [Moment.take_fst, there, Option.bind_some, Task.outcome?, live, request, ← expression]

end Ahead

/-- A request of a burst after which another came: nothing comes of it, and no event of its own
changes the workshop. -/
structure Overtaken (s : Session) (n : Nat) : Prop where
  outcome : ∀ outcome, (s.take n).1 = some outcome → outcome = .superseded
  awaited : ((s.await n).take n).1 = some .superseded
  stop : (s.stop n).workshop = s.workshop
  proceed : (s.proceed n).workshop = s.workshop

/-- A request to which the answer, and the workshop then, is to be what a blocking evaluation
gave. -/
structure Agrees (s : Session) (n : Nat) (alone : Option Evaluation × Workshop) : Prop where
  outcome : ∀ outcome, (s.take n).1 = some outcome →
    ∃ e, outcome = .ready e ∧ alone = (some e, s.workshop)
  awaited : ∀ e workshop, alone = (some e, workshop) →
    ((s.await n).take n).1 = some (.ready e) ∧ (s.await n).workshop = workshop

end Session

namespace Moment

open Session (Numbered InPlace)

variable {w : Workshop} {first : Nat} {m : Moment}

/-- A burst goes on that began when the tickets before `first` were given: the workshop is as it
was then, and no request of the burst has begun. -/
structure Bursting (w : Workshop) (first : Nat) (m : Moment) : Prop where
  ordered : m.session.Numbered ∧ m.session.InPlace
  begun : first ≤ m.session.submitted
  workshop : m.session.workshop = w
  idle : ∀ t ∈ m.session.tasks, t.AtRest first ∨ first ≤ t.ticket ∧ t.state = .live .queued
  present : ∀ n, first ≤ n → n < m.session.submitted → n ∈ m.session.tasks.map Task.ticket

/-- How a task of a burst stands after an order. -/
theorem Bursting.order (h : m.Bursting w first) {e : Event} (order : e.isOrder = true) {t : Task}
    (member : t ∈ m.session.tasks) :
    Task.AtRest first { t with state := m.nextState e t } ∨
      first ≤ t.ticket ∧ m.nextState e t = .live .queued := by
  have told : m.nextState e t = t.state ∨ m.nextState e t = t.state.stop := by
    cases e with
    | submit expression label =>
      simp only [nextState]
      split
      · exact .inr rfl
      · exact .inl rfl
    | cancel =>
      simp only [nextState]
      split
      · exact .inr rfl
      · exact .inl rfl
    | _ => simp [Event.isOrder] at order
  rcases told with same | stopped
  · rw [same]
    exact h.idle t member
  · rw [stopped]
    rcases h.idle t member with rest | ⟨new, queued⟩
    · exact .inl rest.stop
    · exact .inl (.inr ⟨new, .inl (by simp [queued, TaskState.stop, Phase.isDone])⟩)

theorem Bursting.react (h : m.Bursting w first) {e : Event} (order : e.isOrder = true) :
    (m.react e).Bursting w first where
  ordered := ordered_after h.ordered [e]
  begun := by
    rw [submitted_react]
    exact Nat.le_add_right_of_le h.begun
  workshop := by
    cases e with
    | submit expression label => exact h.workshop
    | cancel => exact h.workshop
    | _ => simp [Event.isOrder] at order
  idle := by
    intro t member
    rcases mem_react h.ordered.1 e member with
      ⟨expression, label, -, rfl⟩ | ⟨u, there, ticket, -, state⟩
    · exact .inr ⟨h.begun, rfl⟩
    · rw [← ticket, state]
      rcases h.order order there with rest | queued
      · exact .inl (rest.congr ticket state)
      · exact .inr queued
  present := by
    intro n new old
    cases e with
    | submit expression label =>
      rw [Moment.react, Session.tickets_submit, List.mem_append, List.mem_singleton]
      rcases Nat.lt_succ_iff_lt_or_eq.1 old with older | last
      · exact .inl (h.present n new older)
      · exact .inr last
    | cancel =>
      rw [Moment.react, Session.cancel, Session.tickets_stopInFlight]
      exact h.present n new old
    | _ => simp [Event.isOrder] at order

theorem Bursting.after (h : m.Bursting w first) {orders : List Event}
    (ordered : ∀ e ∈ orders, e.isOrder = true) : (m.after orders).Bursting w first := by
  induction orders generalizing m with
  | nil => exact h
  | cons e orders ih =>
    exact ih (h.react (ordered e (by simp))) fun f member =>
      ordered f (List.mem_cons_of_mem e member)

/-- A burst begins when every background request is finished. -/
theorem bursting_of_finished (ordered : m.session.Numbered ∧ m.session.InPlace)
    (finished : ∀ t ∈ m.session.tasks, t.state.isFinished = true) :
    m.Bursting m.session.workshop m.session.submitted where
  ordered := ordered
  begun := Nat.le_refl _
  workshop := rfl
  idle := fun t member => .inl (.inl ⟨ordered.1.below t member, finished t member⟩)
  present := fun _ new old => absurd new (Nat.not_le_of_lt old)

/-- The last request of a burst is the only one that was not told to stop. -/
theorem Bursting.submit (h : m.Bursting w first) (expression label : String) :
    (m.react (.submit expression label)).session.Ahead w ⟨0, expression⟩ first
      m.session.submitted 0 := by
  have fresh := fresh_submit h.ordered expression label
  have burst : (m.react (.submit expression label)).Bursting w first := h.react rfl
  have there : m.session.submitted ∈
      (m.react (.submit expression label)).session.tasks.map Task.ticket :=
    burst.present _ h.begun (by rw [fresh.submitted]; exact Nat.lt_succ_self _)
  obtain ⟨t, -, -, found⟩ := burst.ordered.1.task?_of_ticket there
  obtain ⟨request, state⟩ := fresh.queued t found
  refine ⟨burst.ordered.1, ⟨t, found, request, state⟩, burst.workshop, fun u member other => ?_,
    fun n new old => burst.present n new (by rw [fresh.submitted]; omega)⟩
  refine (burst.idle u member).resolve_right fun queued => other ?_
  -- A request that has not begun is at work, and so the last one.
  have last := burst.ordered.2.ticket_add_one member (by rw [queued.2]; rfl)
  rw [fresh.submitted] at last
  exact Nat.succ.inj last

theorem ahead_after {r : Request} {last steps : Nat}
    (h : m.session.Ahead w r first last steps) {run : List Event}
    (turns : ∀ e ∈ run, e.isTurn = true) :
    (m.after run).session.Ahead w r first last
      (steps + run.countP (Event.isStepOf (.task last))) := by
  induction run generalizing m steps with
  | nil => exact h
  | cons e run ih =>
    have rest : ∀ f ∈ run, f.isTurn = true := fun f member => turns f (List.mem_cons_of_mem e member)
    rw [after_cons, List.countP_cons, Nat.add_comm (run.countP _), ← Nat.add_assoc]
    refine ih ?_ rest
    cases e with
    | stop n => exact h.stop n
    | proceed n =>
      have stepped := h.proceed n
      simp only [Event.isStepOf, beq_iff_eq]
      exact stepped
    | _ => simp [Event.isTurn] at turns

/-- **A burst comes to what its last request comes to.** In every session in which every background
request is finished, let there be a burst, and let its requests then take their turns in any order.
The burst itself changes nothing. If its last request has an outcome, that is its answer when it
is evaluated alone, from the workshop before the burst, and the workshop is the one after that; it
has one as soon as it has taken so many steps, or as its user has waited for it, if it is answered
at all. Every other request of the burst is overtaken. -/
theorem burst_exact (furnished : w.Furnished) {host : Host} (found : w.hosts[0]? = some host)
    (earlier : List Event)
    (finished : ∀ t ∈ ((Moment.first w).after earlier).session.tasks, t.state.isFinished = true)
    (orders : List Event) (ordered : ∀ e ∈ orders, e.isOrder = true) (expression label : String) :
    let m := (Moment.first w).after earlier
    let last := (m.after orders).session.submitted
    let burst := m.after (orders ++ [.submit expression label])
    let alone := m.session.workshop.evaluate ⟨0, expression⟩
    burst.session.workshop = m.session.workshop ∧
      ∀ run, (∀ e ∈ run, e.isTurn = true) →
        (burst.after run).session.Agrees last alone ∧
          (host.retries.toNat + 2 ≤ run.countP (Event.isStepOf (.task last)) →
            ∀ e, alone.1 = some e → ((burst.after run).session.take last).1 = some (.ready e)) ∧
          ∀ before expression' label' between,
            orders = before ++ .submit expression' label' :: between →
              (burst.after run).session.Overtaken (m.after before).session.submitted := by
  intro m last burst alone
  have begun : m.Bursting m.session.workshop m.session.submitted :=
    bursting_of_finished ⟨numbered_after w earlier, inPlace_after w earlier⟩ finished
  have steady := steady_after furnished earlier
  have ready : m.session.workshop.Ready := steady.ready furnished.ready
  have found' : m.session.workshop.hosts[(⟨0, expression⟩ : Request).host]? = some host :=
    steady.hosts ▸ found
  have same : burst = (m.after orders).react (.submit expression label) := by
    simp only [burst, after_append, after_cons, after_nil]
  have ahead : burst.session.Ahead m.session.workshop ⟨0, expression⟩ m.session.submitted last 0 :=
    same ▸ (begun.after ordered).submit expression label
  refine ⟨ahead.workshop, fun run turns => ?_⟩
  have now := ahead_after ahead turns
  rw [Nat.zero_add] at now
  refine ⟨⟨fun outcome taken => now.evaluate_of_take ready found' taken, ?_⟩, ?_, ?_⟩
  · intro e workshop answered
    obtain ⟨steps, awaited, ended⟩ := now.await ready found'
    exact awaited.take_of_evaluate ended answered
  · intro enough e answered
    have whole : alone = (some e, alone.2) := Prod.ext answered rfl
    refine (now.take_of_evaluate (Workshop.pursueFor_eq_pursue ready found' (.inl ?_)) whole).1
    simpa only [Workshop.stepBound, found'] using enough
  · rintro before expression' label' between rfl
    have new : m.session.submitted ≤ (m.after before).session.submitted := submitted_le m before
    have old : (m.after before).session.submitted < last := by
      have step := submitted_react (m.after before) (.submit expression' label')
      have rest := submitted_le ((m.after before).react (.submit expression' label')) between
      simp only [if_true] at step
      simp only [last, after_append, after_cons]
      omega
    refine ⟨fun outcome taken => ?_, now.take_await_other new old, now.workshop_stop _,
      now.workshop_proceed (Nat.ne_of_lt old)⟩
    rw [take_fst] at taken
    obtain ⟨t, there, own⟩ := Option.bind_eq_some_iff.1 taken
    have ticket := Session.ticket_of_task? there
    exact (now.rest_of_task? (Nat.ne_of_lt old) there).outcome_eq (ticket ▸ new) own

/-- Two requests with a cancellation between them, and then a third one, whose first library
cannot be loaded. -/
theorem third_of_burst :
    let orders : List Event := [.submit "x" "first", .cancel, .submit "x / 2" "second"]
    let burst := (Moment.first (.bare flaky 3)).after (orders ++ [.submit "x + 1" "third"])
    ∃ e, ((burst.session.await 2).take 2).1 = some (.ready e) ∧
      (burst.session.await 2).workshop.names.issued = 2 ∧
        burst.session.Overtaken 0 ∧ burst.session.Overtaken 1 := by
  intro orders burst
  let w : Workshop := .bare flaky 3
  obtain ⟨-, all⟩ := burst_exact (Workshop.furnished_bare flaky 3) rfl [] (by simp [first])
    orders (by simp [orders, Event.isOrder]) "x + 1" "third"
  obtain ⟨agrees, -, overtaken⟩ := all [] (by simp)
  have third : burst.session.Agrees 2 (w.evaluate ⟨0, "x + 1"⟩) := agrees
  have first : burst.session.Overtaken 0 :=
    overtaken [] "x" "first" [.cancel, .submit "x / 2" "second"] rfl
  have second : burst.session.Overtaken 1 :=
    overtaken [.submit "x" "first", .cancel] "x / 2" "second" [] rfl
  obtain ⟨e, answer⟩ : ∃ e, (w.evaluate ⟨0, "x + 1"⟩).1 = some e :=
    Option.isSome_iff_exists.1 (by decide +kernel)
  have issued : (w.evaluate ⟨0, "x + 1"⟩).2.names.issued = 2 := by decide +kernel
  obtain ⟨ready, workshop⟩ := third.awaited e _ (by rw [← answer])
  refine ⟨e, ready, ?_, first, second⟩
  rw [workshop]
  exact issued

end Moment

end Plotter
