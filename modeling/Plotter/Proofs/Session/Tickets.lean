import Plotter.Proofs.Session.Moments

/-!
# Tasks by their tickets

A ticket is given once, so it stands for one task, or for none once that task is gone. Here it
is said what an event makes of the task with a ticket: `Moment.nextState` is how the task
stands after it, if it is still there. Its request never changes.

## What is proved

* `Moment.numbered_after`: tickets stay distinct and below the number of those given.
* `Moment.task_before`: a task that is there after an event, and whose ticket is older than the
  event, was there before it, and stands as `Moment.nextState` says.
-/

namespace Plotter

/-- A task that was told to stop does so. -/
def TaskState.halt : TaskState → TaskState
  | stopping _ => superseded
  | state => state

namespace Session

/-- Tickets are distinct, and below the number of those given. -/
structure Numbered (s : Session) : Prop where
  distinct : (s.tasks.map Task.ticket).Nodup
  below : ∀ t ∈ s.tasks, t.ticket < s.submitted

variable {s : Session}

theorem ticket_of_task? {n : Nat} {t : Task} (h : s.task? n = some t) : t.ticket = n := by
  simpa using List.find?_some h

theorem mem_of_task? {n : Nat} {t : Task} (h : s.task? n = some t) : t ∈ s.tasks :=
  List.mem_of_find?_eq_some h

/-- A task in the list is the one with its ticket. -/
theorem Numbered.task?_eq (h : s.Numbered) {t : Task} (member : t ∈ s.tasks) :
    s.task? t.ticket = some t := by
  have distinct := h.distinct
  unfold task?
  generalize s.tasks = tasks at distinct member
  induction tasks with
  | nil => simp at member
  | cons u tasks ih =>
    rw [List.map_cons, List.nodup_cons] at distinct
    rcases List.mem_cons.1 member with rfl | member
    · simp
    · have other : (u.ticket == t.ticket) = false := by
        rw [beq_eq_false_iff_ne]
        exact fun same => distinct.1 (same ▸ List.mem_map.2 ⟨t, member, rfl⟩)
      rw [List.find?_cons, other]
      exact ih distinct.2 member

/-- Tasks with one ticket are one task. -/
theorem Numbered.eq_of_ticket (h : s.Numbered) {t u : Task} (member : t ∈ s.tasks)
    (member' : u ∈ s.tasks) (same : u.ticket = t.ticket) : u = t := by
  have found := h.task?_eq member'
  rw [same, h.task?_eq member] at found
  exact (Option.some.inj found).symm

theorem Numbered.lt_of_task? (h : s.Numbered) {n : Nat} {t : Task} (found : s.task? n = some t) :
    n < s.submitted := by
  rw [← ticket_of_task? found]
  exact h.below t (mem_of_task? found)

/-! ### Lists of tasks that change -/

/-- Tasks that change without their tickets. -/
theorem Numbered.map (h : s.Numbered) {s' : Session} {f : Task → Task}
    (tasks : s'.tasks = s.tasks.map f) (submitted : s'.submitted = s.submitted)
    (same : ∀ t, (f t).ticket = t.ticket) : s'.Numbered where
  distinct := by
    have : (s.tasks.map f).map Task.ticket = s.tasks.map Task.ticket := by simp [same]
    rw [tasks, this]
    exact h.distinct
  below := by
    intro t member
    rw [tasks, List.mem_map] at member
    obtain ⟨u, member, rfl⟩ := member
    rw [same, submitted]
    exact h.below u member

/-- Tasks of which some are gone. -/
theorem Numbered.sublist (h : s.Numbered) {s' : Session} (tasks : s'.tasks.Sublist s.tasks)
    (submitted : s'.submitted = s.submitted) : s'.Numbered where
  distinct := (tasks.map Task.ticket).nodup h.distinct
  below := fun t member => submitted ▸ h.below t (tasks.subset member)

theorem Numbered.stopInFlight (h : s.Numbered) : s.stopInFlight.Numbered := by
  refine h.map rfl rfl fun t => ?_
  split <;> rfl

theorem Numbered.setState (h : s.Numbered) (ticket : Nat) (state : TaskState) :
    (s.setState ticket state).Numbered := by
  refine h.map rfl rfl fun t => ?_
  split <;> rfl

theorem tickets_stopInFlight (s : Session) :
    s.stopInFlight.tasks.map Task.ticket = s.tasks.map Task.ticket := by
  simp only [stopInFlight, List.map_map]
  refine List.map_congr_left fun t _ => ?_
  simp only [Function.comp]
  split <;> rfl

theorem tickets_submit (s : Session) (expression label : String) :
    (s.submit expression label).tasks.map Task.ticket =
      s.tasks.map Task.ticket ++ [s.submitted] := by
  rw [← s.tickets_stopInFlight]
  simp only [submit, List.map_append, List.map_map, List.map_cons, List.map_nil]
  congr 2
  funext t
  simp only [Function.comp]
  split <;> rfl

/-- The task with a ticket that is there. -/
theorem Numbered.task?_of_ticket (h : s.Numbered) {n : Nat} (there : n ∈ s.tasks.map Task.ticket) :
    ∃ t ∈ s.tasks, t.ticket = n ∧ s.task? n = some t := by
  obtain ⟨t, member, rfl⟩ := List.mem_map.1 there
  exact ⟨t, member, rfl, h.task?_eq member⟩

theorem Numbered.submit (h : s.Numbered) (expression label : String) :
    (s.submit expression label).Numbered where
  distinct := by
    rw [tickets_submit, List.nodup_append]
    refine ⟨h.distinct, by simp, ?_⟩
    intro n old m new
    obtain ⟨t, member, rfl⟩ := List.mem_map.1 old
    rw [List.mem_singleton.1 new]
    exact Nat.ne_of_lt (h.below t member)
  below := by
    intro t member
    have ticket := List.mem_map_of_mem (f := Task.ticket) member
    rw [tickets_submit, List.mem_append, List.mem_singleton] at ticket
    rcases ticket with old | new
    · obtain ⟨u, there, same⟩ := List.mem_map.1 old
      exact Nat.lt_succ_of_lt (same ▸ h.below u there)
    · exact new ▸ Nat.lt_succ_self _

/-! ### Single steps -/

/-- How a task stands after one more step. -/
def stepState (s : Session) (t : Task) : TaskState :=
  match t.state with
  | .live phase => .live (s.workshop.advance t.request phase).1
  | state => state

theorem Numbered.setState_self (h : s.Numbered) {v : Task} (found : s.task? v.ticket = some v) :
    (s.setState v.ticket v.state).tasks = s.tasks := by
  refine (List.map_congr_left fun t member => ?_).trans (List.map_id' s.tasks)
  split
  · rename_i own
    have same := h.task?_eq member
    rw [own, found] at same
    obtain rfl := Option.some.inj same
    rfl
  · rfl

/-- A change of the tasks with a ticket is one of the task with that ticket, if there is one. -/
theorem Numbered.map_own (h : s.Numbered) (n : Nat) (next : Task → TaskState) :
    (s.tasks.map fun t => if t.ticket = n then { t with state := next t } else t) =
      match s.task? n with
      | some v => (s.setState v.ticket (next v)).tasks
      | none => s.tasks := by
  cases found : s.task? n with
  | none =>
    refine (List.map_congr_left fun t member => ?_).trans (List.map_id' s.tasks)
    rw [if_neg]
    rintro rfl
    simp [h.task?_eq member] at found
  | some v =>
    obtain rfl := ticket_of_task? found
    refine List.map_congr_left fun t member => ?_
    by_cases own : t.ticket = v.ticket
    · have same := h.task?_eq member
      rw [own, found] at same
      obtain rfl := Option.some.inj same
      rfl
    · simp only [own, if_false]

theorem Numbered.tasks_stop (h : s.Numbered) (n : Nat) :
    (s.stop n).tasks =
      s.tasks.map fun t => if t.ticket = n then { t with state := t.state.halt } else t := by
  rw [h.map_own n fun t => t.state.halt, Session.stop]
  cases found : s.task? n with
  | none => rfl
  | some v =>
    have same := h.setState_self (ticket_of_task? found ▸ found)
    dsimp only [stopTask]
    cases state : v.state with
    | stopping phase => rfl
    | live phase => exact (state ▸ same).symm
    | superseded => exact (state ▸ same).symm

theorem Numbered.tasks_proceed (h : s.Numbered) (n : Nat) :
    (s.proceed n).tasks =
      s.tasks.map fun t => if t.ticket = n then { t with state := s.stepState t } else t := by
  rw [h.map_own n s.stepState, Session.proceed]
  cases found : s.task? n with
  | none => rfl
  | some v =>
    have same := h.setState_self (ticket_of_task? found ▸ found)
    dsimp only [advanceTask, stepState]
    cases state : v.state with
    | live phase => rfl
    | stopping phase => exact (state ▸ same).symm
    | superseded => exact (state ▸ same).symm

@[simp] theorem submitted_stopTask (s : Session) (t : Task) :
    (s.stopTask t).submitted = s.submitted := by
  unfold stopTask
  split <;> rfl

@[simp] theorem submitted_advanceTask (s : Session) (t : Task) :
    (s.advanceTask t).submitted = s.submitted := by
  unfold advanceTask
  split <;> rfl

@[simp] theorem submitted_stop (s : Session) (n : Nat) : (s.stop n).submitted = s.submitted := by
  unfold stop
  split <;> simp

@[simp] theorem submitted_proceed (s : Session) (n : Nat) :
    (s.proceed n).submitted = s.submitted := by
  unfold proceed
  split <;> simp

@[simp] theorem tasks_keep (s : Session) (e : Evaluation) (slot : Option String) :
    (s.keep e slot).tasks = s.tasks := by
  cases slot <;> rfl

@[simp] theorem submitted_keep (s : Session) (e : Evaluation) (slot : Option String) :
    (s.keep e slot).submitted = s.submitted := by
  cases slot <;> rfl

theorem tasks_collect (s : Session) (n : Nat) (slot : Option String) :
    (s.collect n slot).tasks = s.tasks ∨
      (s.collect n slot).tasks = s.tasks.filter fun t => t.ticket != n := by
  rw [collect_eq]
  split
  · exact .inr (tasks_keep ..)
  · exact .inr rfl
  · exact .inl rfl

@[simp] theorem submitted_collect (s : Session) (n : Nat) (slot : Option String) :
    (s.collect n slot).submitted = s.submitted := by
  rw [collect_eq]
  split
  · exact submitted_keep ..
  · rfl
  · rfl

theorem Numbered.stop (h : s.Numbered) (n : Nat) : (s.stop n).Numbered := by
  refine h.map (h.tasks_stop n) (by simp) fun t => ?_
  split <;> rfl

theorem Numbered.proceed (h : s.Numbered) (n : Nat) : (s.proceed n).Numbered := by
  refine h.map (h.tasks_proceed n) (by simp) fun t => ?_
  split <;> rfl

end Session

namespace Moment

/-! ### Events -/

/-- How a task stands after an event, if it is still there. -/
def nextState (m : Moment) (e : Event) (t : Task) : TaskState :=
  match e with
  | .submit .. | .cancel =>
    if m.session.inFlight = some t.ticket then t.state.stop else t.state
  | .stop n => if t.ticket = n then t.state.halt else t.state
  | .proceed n => if t.ticket = n then m.session.stepState t else t.state
  | _ => t.state

theorem numbered_react {m : Moment} (h : m.session.Numbered) (e : Event) :
    (m.react e).session.Numbered := by
  cases e with
  | submit expression label => exact h.submit expression label
  | cancel => exact h.stopInFlight
  | stop n => exact h.stop n
  | proceed n => exact h.proceed n
  | collect n slot =>
    refine h.sublist ?_ (m.session.submitted_collect n slot)
    rcases m.session.tasks_collect n slot with same | fewer
    · exact same ▸ List.Sublist.refl _
    · exact fewer ▸ List.filter_sublist
  | reclaim =>
    simp only [react]
    split
    · exact h.sublist List.filter_sublist rfl
    · exact h
  | answer slot =>
    simp only [react]
    split
    · exact h.sublist (by simp) (by simp)
    · exact h
  | ask r =>
    simp only [react]
    split <;> exact h
  | pursue =>
    simp only [react]
    split
    · exact h
    · exact h.sublist (List.Sublist.refl _) rfl
  | forsake =>
    simp only [react]
    split
    · exact h
    · exact h.sublist (List.Sublist.refl _) rfl
  | _ => exact h.sublist (List.Sublist.refl _) rfl

/-- Tickets stay distinct and below the number of those given. -/
theorem numbered_after (w : Workshop) (events : List Event) :
    ((first w).after events).session.Numbered :=
  after_induction (P := fun m => m.session.Numbered) (fun _ e h => numbered_react h e)
    ⟨by simp [first], by simp [first]⟩ events

theorem submitted_react (m : Moment) (e : Event) :
    (m.react e).session.submitted =
      m.session.submitted + if e matches .submit .. then 1 else 0 := by
  cases e with
  | collect n slot => exact m.session.submitted_collect n slot
  | ask r =>
    simp only [react]
    split <;> rfl
  | pursue =>
    simp only [react]
    split <;> rfl
  | forsake =>
    simp only [react]
    split <;> rfl
  | answer slot =>
    simp only [react]
    split <;> simp
  | reclaim =>
    simp only [react]
    split <;> rfl
  | stop n => simp [react]
  | proceed n => simp [react]
  | _ => rfl

/-- **What an event makes of the tasks.** A task that is there after an event is the one that
the event submitted, or was there before it. -/
theorem mem_react {m : Moment} (numbered : m.session.Numbered) (e : Event) {t : Task}
    (member : t ∈ (m.react e).session.tasks) :
    (∃ expression label, e = .submit expression label ∧
      t = ⟨m.session.submitted, some label, ⟨0, expression⟩, .live .queued⟩) ∨
    ∃ u ∈ m.session.tasks,
      u.ticket = t.ticket ∧ t.request = u.request ∧ t.state = m.nextState e u := by
  have stay (u : Task) (member : u ∈ m.session.tasks) (state : m.nextState e u = u.state) :
      ∃ v ∈ m.session.tasks,
        v.ticket = u.ticket ∧ u.request = v.request ∧ u.state = m.nextState e v :=
    ⟨u, member, rfl, rfl, state.symm⟩
  cases e with
  | submit expression label =>
    simp only [react, Session.submit, Session.stopInFlight, List.mem_append, List.mem_map,
      List.mem_singleton] at member
    rcases member with ⟨v, ⟨u, member, rfl⟩, rfl⟩ | rfl
    · refine .inr ⟨u, member, ?_⟩
      simp only [nextState]
      split <;> split <;> simp
    · exact .inl ⟨expression, label, rfl, rfl⟩
  | cancel =>
    simp only [react, Session.cancel, Session.stopInFlight, List.mem_map] at member
    obtain ⟨u, member, rfl⟩ := member
    refine .inr ⟨u, member, ?_⟩
    simp only [nextState]
    split <;> simp
  | stop n =>
    rw [react, numbered.tasks_stop, List.mem_map] at member
    obtain ⟨u, member, rfl⟩ := member
    refine .inr ⟨u, member, ?_⟩
    simp only [nextState]
    split <;> simp
  | proceed n =>
    rw [react, numbered.tasks_proceed, List.mem_map] at member
    obtain ⟨u, member, rfl⟩ := member
    refine .inr ⟨u, member, ?_⟩
    simp only [nextState]
    split <;> simp
  | collect n slot =>
    refine .inr (stay t ?_ rfl)
    rcases m.session.tasks_collect n slot with same | fewer
    · exact same ▸ member
    · exact (List.mem_filter.1 (fewer ▸ member)).1
  | reclaim =>
    refine .inr (stay t ?_ rfl)
    simp only [react] at member
    split at member
    · exact (List.mem_filter.1 member).1
    · exact member
  | answer slot =>
    refine .inr (stay t ?_ rfl)
    simp only [react] at member
    split at member
    · simpa using member
    · exact member
  | ask r =>
    refine .inr (stay t ?_ rfl)
    simp only [react] at member
    split at member <;> exact member
  | pursue =>
    refine .inr (stay t ?_ rfl)
    simp only [react] at member
    split at member <;> exact member
  | forsake =>
    refine .inr (stay t ?_ rfl)
    simp only [react] at member
    split at member <;> exact member
  | _ => exact .inr (stay t member rfl)

/-- A task that is there after an event, and whose ticket was given before it, was there. -/
theorem task_before {m : Moment} (numbered : m.session.Numbered) (e : Event) {n : Nat} {t : Task}
    (old : n < m.session.submitted) (found : (m.react e).session.task? n = some t) :
    ∃ u, m.session.task? n = some u ∧ t.request = u.request ∧ t.state = m.nextState e u := by
  obtain rfl := Session.ticket_of_task? found
  rcases mem_react numbered e (Session.mem_of_task? found) with
    ⟨expression, label, -, rfl⟩ | ⟨u, member, own, request, state⟩
  · exact absurd old (Nat.lt_irrefl _)
  · exact ⟨u, own ▸ numbered.task?_eq member, request, state⟩

end Moment

end Plotter
