import Plotter.Proofs.Request.Upkeep
import Plotter.Proofs.Session.Tickets

/-!
# What an event does

Many things can happen in a session, and few of them touch the workshop. A request goes on by a step,
or is let go of; a handle is called; what runs have left that are over is put in its place; what is
not needed is let go of; the files or the clock of the machine change (`Moment.Effect`). At each moment
there are the runs of the tasks, those that were told to stop included, and the run for which the
user waits. A step changes the run of its own request and no other, and a request that is let go of
takes its run with it.

Whatever is true of the workshop and of the runs under way at every moment is shown by cases of what
an event does.

## What is proved

* `Moment.hasEffect`: what each event does, and which runs are under way before and after it.
* `Moment.steady_after`: no event changes the hosts.
-/

namespace Plotter

/-! ### Clients -/

/-- Who has a request. -/
inductive Client
  /-- The user, who waits for it. -/
  | user
  /-- The task with a ticket. -/
  | task (ticket : Nat)
  deriving DecidableEq

namespace Event

/-- Whether an event is a step of a request. -/
def isStep : Event → Bool
  | .proceed _ | .pursue => true
  | _ => false

/-- Whether an event is a step of a client's request. -/
def isStepOf : Client → Event → Bool
  | .user, .pursue => true
  | .task n, .proceed k => k == n
  | _, _ => false

theorem isStep_of_isStepOf {c : Client} {e : Event} (mine : e.isStepOf c = true) :
    e.isStep = true := by
  cases c <;> cases e <;> first | rfl | cases mine

end Event

namespace Moment

/-- The request of a client, and how far it has come. A task that was told to stop has none. -/
def standing? (m : Moment) : Client → Option (Request × Phase)
  | .user => m.awaited
  | .task n =>
    match m.session.task? n with
    | some t =>
      match t.state with
      | .live phase => some (t.request, phase)
      | _ => none
    | none => none

theorem standing?_task {m : Moment} {n : Nat} {r : Request} {phase : Phase} :
    m.standing? (.task n) = some (r, phase) ↔
      ∃ t, m.session.task? n = some t ∧ t.request = r ∧ t.state = .live phase := by
  cases found : m.session.task? n with
  | none => simp [standing?, found]
  | some t => cases state : t.state <;> simp [standing?, found, state]

end Moment

/-! ### Runs under way -/

/-- The run of the compiler that a task has under way. -/
def Task.jobs (hosts : List Host) (t : Task) : List Job :=
  match t.state.phase? with
  | some phase => phase.jobs hosts t.request true
  | none => []

/-- The runs of the compiler that tasks have under way. -/
def Session.jobs (s : Session) : List Job := s.tasks.flatMap (Task.jobs s.workshop.hosts)

namespace Moment

/-- The run of the compiler for which the user waits. Only the user's request takes it up. -/
def awaitedJobs (m : Moment) : List Job :=
  match m.awaited with
  | some (r, phase) => phase.jobs m.session.workshop.hosts r false
  | none => []

/-- The runs of the compiler that are under way. -/
def jobs (m : Moment) : List Job := m.awaitedJobs ++ m.session.jobs

/-- The libraries that are left behind in an event: a task stops whose run is over, or the user
gives up a request whose run is over. -/
def strands (m : Moment) : Event → List Place
  | .stop ticket =>
    match m.session.task? ticket with
    | some t =>
      match t.state with
      | .stopping phase =>
        ((phase.jobs m.session.workshop.hosts t.request true).filter
          (Job.strands m.session.workshop.machine.clock)).map Job.place
      | _ => []
    | none => []
  | .forsake =>
    match m.awaited with
    | some (r, phase) =>
      ((phase.jobs m.session.workshop.hosts r false).filter
        (Job.strands m.session.workshop.machine.clock)).map Job.place
    | none => []
  | _ => []

end Moment

@[simp] theorem TaskState.phase?_stop (state : TaskState) : state.stop.phase? = state.phase? := by
  cases state with
  | live phase =>
    simp only [stop]
    split <;> rfl
  | _ => rfl

/-- A task that is finished has no run under way. -/
theorem Task.jobs_of_isFinished {t : Task} (h : t.state.isFinished = true) (hosts : List Host) :
    t.jobs hosts = [] := by
  unfold jobs
  cases state : t.state with
  | live phase =>
    rw [state] at h
    cases phase <;> simp_all [TaskState.isFinished, Phase.isDone, TaskState.phase?, Phase.jobs]
  | stopping phase => simp [state, TaskState.isFinished] at h
  | superseded => rfl

/-- Tasks that are finished may go without their runs being missed. -/
theorem Task.jobs_filter (hosts : List Host) {tasks : List Task} {stays : Task → Bool}
    (gone : ∀ t ∈ tasks, stays t = false → t.state.isFinished = true) :
    (tasks.filter stays).flatMap (Task.jobs hosts) = tasks.flatMap (Task.jobs hosts) := by
  induction tasks with
  | nil => rfl
  | cons t tasks ih =>
    have rest := ih fun u member => gone u (List.mem_cons_of_mem t member)
    cases stay : stays t with
    | true => rw [List.filter_cons_of_pos stay, List.flatMap_cons, List.flatMap_cons, rest]
    | false =>
      have jobless := Task.jobs_of_isFinished (gone t (List.mem_cons_self ..) stay) hosts
      rw [List.filter_cons_of_neg (by simp [stay]), List.flatMap_cons, jobless, rest]
      rfl

/-- A task whose outcome is there is finished. -/
theorem Task.isFinished_of_outcome? {t : Task} {outcome : Outcome} (h : t.outcome? = some outcome) :
    t.state.isFinished = true := by
  unfold Task.outcome? at h
  split at h <;> simp_all [TaskState.isFinished, Phase.isDone]

namespace Session

@[simp] theorem workshop_keep (s : Session) (e : Evaluation) (slot : Option String) :
    (s.keep e slot).workshop = s.workshop := by
  cases slot <;> rfl

@[simp] theorem workshop_collect (s : Session) (n : Nat) (slot : Option String) :
    (s.collect n slot).workshop = s.workshop := by
  rw [collect_eq]
  split
  · exact workshop_keep ..
  · rfl
  · rfl

variable {s : Session}

/-- The runs of a session are those of one task and of the others; to change how that task stands
leaves the others alone, where no two tasks have one ticket. -/
theorem jobs_setState {n : Nat} {t : Task} (found : s.task? n = some t) :
    ∃ others, s.jobs.Perm (t.jobs s.workshop.hosts ++ others) ∧
      (s.Numbered → ∀ (workshop : Workshop) (state : TaskState), workshop.hosts = s.workshop.hosts →
        ({ s with workshop }.setState t.ticket state).jobs.Perm
          (Task.jobs s.workshop.hosts { t with state } ++ others)) := by
  obtain ⟨before, after, split⟩ := List.append_of_mem (mem_of_task? found)
  have around (u : Task) : (before ++ u :: after).flatMap (Task.jobs s.workshop.hosts) =
      before.flatMap (Task.jobs s.workshop.hosts) ++
        (u.jobs s.workshop.hosts ++ after.flatMap (Task.jobs s.workshop.hosts)) := by
    rw [List.flatMap_append, List.flatMap_cons]
  refine ⟨before.flatMap (Task.jobs s.workshop.hosts) ++ after.flatMap (Task.jobs s.workshop.hosts),
    ?_, fun numbered workshop state hosts => ?_⟩
  · rw [jobs, split, around]
    exact List.perm_append_comm_assoc ..
  · have distinct := numbered.distinct
    rw [split, List.map_append, List.map_cons, List.nodup_middle, List.nodup_cons] at distinct
    have other (u : Task) (member : u ∈ before ++ after) : ¬u.ticket = t.ticket := by
      intro same
      refine distinct.1 (same ▸ ?_)
      rw [← List.map_append]
      exact List.mem_map_of_mem member
    have tasks : ({ s with workshop }.setState t.ticket state).tasks =
        before ++ { t with state } :: after := by
      simp only [Session.setState, split, List.map_append, List.map_cons, if_true]
      congr 1
      · refine (List.map_congr_left fun u member => ?_).trans (List.map_id' before)
        exact if_neg (other u (List.mem_append_left _ member))
      · congr 1
        refine (List.map_congr_left fun u member => ?_).trans (List.map_id' after)
        exact if_neg (other u (List.mem_append_right _ member))
    have stay : ({ s with workshop }.setState t.ticket state).workshop.hosts =
      s.workshop.hosts := hosts
    rw [jobs, tasks, stay, around]
    exact List.perm_append_comm_assoc ..

theorem jobs_stopInFlight (s : Session) : s.stopInFlight.jobs = s.jobs := by
  simp only [jobs, stopInFlight, List.flatMap_map]
  refine List.flatMap_congr fun t _ => ?_
  split
  · simp only [Task.jobs, TaskState.phase?_stop]
  · rfl

theorem jobs_submit (s : Session) (expression label : String) :
    (s.submit expression label).jobs = s.jobs := by
  rw [← s.jobs_stopInFlight]
  simp only [jobs, submit, List.flatMap_append, List.flatMap_map, List.flatMap_cons,
    List.flatMap_nil, List.append_nil]
  have queued : Task.jobs s.stopInFlight.workshop.hosts
      ⟨s.stopInFlight.submitted, some label, ⟨0, expression⟩, .live .queued⟩ = [] := rfl
  rw [queued, List.append_nil]
  refine List.flatMap_congr fun t _ => ?_
  split <;> rfl

theorem jobs_collect (h : s.Numbered) (n : Nat) (slot : Option String) :
    (s.collect n slot).jobs = s.jobs := by
  have taken {outcome : Outcome} (found : (s.task? n).bind Task.outcome? = some outcome) :
      (s.tasks.filter fun t => t.ticket != n).flatMap (Task.jobs s.workshop.hosts) = s.jobs := by
    refine Task.jobs_filter _ fun t member gone => ?_
    obtain rfl : t.ticket = n := by simpa using gone
    rw [h.task?_eq member, Option.bind_some] at found
    exact Task.isFinished_of_outcome? found
  rw [jobs, workshop_collect, collect_eq]
  split
  · rename_i found
    rw [tasks_keep]
    exact taken found
  · rename_i found
    exact taken found
  · rfl

theorem jobs_dropTasks (s : Session) : s.dropTasks.jobs = s.jobs := by
  refine Task.jobs_filter _ fun t _ gone => ?_
  simp only [Bool.or_eq_false_iff, Bool.not_eq_false'] at gone
  exact gone.2

/-! ### What is quiet -/

theorem quiet_stop (s : Session) (n : Nat) : s.workshop.Quiet (s.stop n).workshop := by
  unfold stop
  split
  · unfold stopTask
    split
    · exact s.workshop.quiet_abandon ..
    · exact .refl _
  · exact .refl _

theorem steady_proceed (ready : s.workshop.Ready) (n : Nat) :
    s.workshop.Steady (s.proceed n).workshop := by
  unfold proceed
  split
  · unfold advanceTask
    split
    · exact Workshop.advance_steady ready ..
    · exact .refl _
  · exact .refl _

theorem quiet_land (s : Session) : s.workshop.Quiet s.land.workshop := by
  simp only [land]
  generalize s.tasks = tasks
  generalize s.workshop = w
  induction tasks generalizing w with
  | nil => exact .refl w
  | cons t tasks ih =>
    refine Workshop.Quiet.trans ?_ (ih _)
    dsimp only
    split
    · exact w.quiet_land ..
    · exact .refl w

theorem quiet_closeScratches (s : Session) : s.workshop.Quiet s.closeScratches.workshop := by
  refine s.workshop.quiet_machine ?_
  generalize List.filter _ _ = unneeded
  generalize s.workshop.machine = m
  induction unneeded generalizing m with
  | nil => exact .refl m
  | cons entry unneeded ih => exact (m.quiet_closeScratch entry.2.bench.scratch).trans (ih _)

theorem quiet_reclaim (s : Session) : s.workshop.Quiet s.reclaim.workshop :=
  (s.workshop.quiet_release s.dropTasks.uses).trans
    s.dropTasks.releaseInstances.quiet_closeScratches

end Session

/-! ### Effects -/

namespace Moment

/-- What an event does in the workshop. The runs `runs` are under way before it and `left` after it,
and the libraries at `gone` are left behind. -/
inductive Effect (m : Moment) : Event → (runs left : List Job) → (gone : List Place) → Workshop → Prop
  /-- The workshop stays as it is. No client takes a step. -/
  | idle {e : Event} (untaken : ∀ c, e.isStepOf c = true → m.standing? c = none) :
      Effect m e m.jobs m.jobs [] m.session.workshop
  /-- The machine changes outside of the scratch directories. -/
  | machine {e : Event} {machine : Machine} (other : e.isStep = false)
      (quiet : m.session.workshop.machine.Quiet machine)
      (scratches : machine.scratches = m.session.workshop.machine.scratches) :
      Effect m e m.jobs m.jobs [] { m.session.workshop with machine }
  /-- The request of a client goes on by a step. -/
  | step {e : Event} {c : Client} {r : Request} {phase : Phase} {lands : Bool} {others : List Job}
      (standing : m.standing? c = some (r, phase)) (mine : e.isStepOf c = true) :
      Effect m e (phase.jobs m.session.workshop.hosts r lands ++ others)
        ((m.session.workshop.advance r phase).1.jobs m.session.workshop.hosts r lands ++ others) []
        (m.session.workshop.advance r phase).2
  /-- A request is let go of. -/
  | drop {e : Event} {r : Request} {phase : Phase} {lands : Bool} {others : List Job}
      (other : e.isStep = false) :
      Effect m e (phase.jobs m.session.workshop.hosts r lands ++ others) others
        (((phase.jobs m.session.workshop.hosts r lands).filter
          (Job.strands m.session.workshop.machine.clock)).map Job.place)
        (m.session.workshop.abandon r phase)
  /-- The handle in a slot is called. -/
  | call {slot : String} {x : Float} :
      Effect m (.call slot x) m.jobs m.jobs [] (m.session.workshop.call (m.session.slot slot) x).2
  /-- What runs have left that are over is put in its place. -/
  | land : Effect m .land m.jobs m.jobs [] m.session.land.workshop
  /-- What is not needed is let go of. -/
  | reclaim (idle : m.awaited = none) :
      Effect m .reclaim m.jobs m.jobs [] m.session.reclaim.workshop

/-- An event has one of these effects, with the runs in whatever order. That other runs stay is known
where no two tasks have one ticket, and every host has its template. -/
def HasEffect (m : Moment) (e : Event) : Prop :=
  ∃ runs left, m.jobs.Perm runs ∧
    (m.session.Numbered → m.session.workshop.Ready → (m.react e).jobs.Perm left) ∧
      m.Effect e runs left (m.strands e) (m.react e).session.workshop

variable {m : Moment} {e : Event}

/-- An event that is no step of a request is none of a client's. -/
theorem untaken_of_not_isStep (other : e.isStep = false) (c : Client) (mine : e.isStepOf c = true) :
    m.standing? c = none := by
  rw [Event.isStep_of_isStepOf mine] at other
  cases other

/-- The runs under way depend on the session's own and on the hosts. -/
theorem jobs_congr {s : Session} (hosts : s.workshop.hosts = m.session.workshop.hosts)
    (jobs : s.jobs = m.session.jobs) : Moment.jobs { m with session := s } = m.jobs := by
  simp only [Moment.jobs, awaitedJobs, hosts, jobs]

/-- The runs under way stay when the workshop changes, but not its hosts. -/
theorem jobs_of_hosts {w : Workshop} (hosts : w.hosts = m.session.workshop.hosts) :
    Moment.jobs { m with session.workshop := w } = m.jobs :=
  jobs_congr hosts (by simp only [Session.jobs, hosts])

theorem hasEffect_of_idle (untaken : ∀ c, e.isStepOf c = true → m.standing? c = none)
    (gone : m.strands e = []) (workshop : (m.react e).session.workshop = m.session.workshop)
    (jobs : m.session.Numbered → (m.react e).jobs = m.jobs) : m.HasEffect e := by
  refine ⟨m.jobs, m.jobs, .refl _, fun numbered _ => .of_eq (jobs numbered), ?_⟩
  rw [gone, workshop]
  exact .idle untaken

/-- An event that cannot happen does nothing. -/
theorem hasEffect_of_same (untaken : ∀ c, e.isStepOf c = true → m.standing? c = none)
    (gone : m.strands e = []) (same : m.react e = m) : m.HasEffect e :=
  hasEffect_of_idle untaken gone (by rw [same]) fun _ => by rw [same]

/-- The runs of a moment are that of one task and the others, which stay when only that task
changes. -/
theorem jobs_of_task {n : Nat} {t : Task} (found : m.session.task? n = some t) {phase : Phase}
    (own : t.state.phase? = some phase) :
    ∃ others, m.jobs.Perm (phase.jobs m.session.workshop.hosts t.request true ++ others) ∧
      (m.session.Numbered →
        ∀ (workshop : Workshop) (state : TaskState), workshop.hosts = m.session.workshop.hosts →
          (Moment.jobs ⟨{ m.session with workshop }.setState t.ticket state, m.awaited⟩).Perm
            (Task.jobs m.session.workshop.hosts { t with state } ++ others)) := by
  obtain ⟨others, all, changed⟩ := Session.jobs_setState found
  have mine : t.jobs m.session.workshop.hosts =
      phase.jobs m.session.workshop.hosts t.request true := by
    simp only [Task.jobs, own]
  refine ⟨m.awaitedJobs ++ others, ?_, fun numbered workshop state hosts => ?_⟩
  · rw [← mine]
    exact (all.append_left m.awaitedJobs).trans (List.perm_append_comm_assoc ..)
  · have awaited : awaitedJobs ⟨{ m.session with workshop }.setState t.ticket state, m.awaited⟩ =
        m.awaitedJobs := by
      simp only [awaitedJobs, Session.setState, hosts]
    rw [Moment.jobs, awaited]
    refine ((changed numbered workshop state hosts).append_left _).trans ?_
    exact List.perm_append_comm_assoc ..

/-- The runs of a moment are that of the user's request and those of the tasks. -/
theorem jobs_of_awaited {r : Request} {phase : Phase} (awaited : m.awaited = some (r, phase)) :
    m.jobs = phase.jobs m.session.workshop.hosts r false ++ m.session.jobs := by
  simp only [jobs, awaitedJobs, awaited]

/-- The runs of a moment are that of a client's request and the others. -/
theorem jobs_of_standing {c : Client} {r : Request} {phase : Phase}
    (standing : m.standing? c = some (r, phase)) : ∃ lands others,
      m.jobs.Perm (phase.jobs m.session.workshop.hosts r lands ++ others) := by
  cases c with
  | user => exact ⟨false, m.session.jobs, .of_eq (jobs_of_awaited standing)⟩
  | task n =>
    obtain ⟨t, found, rfl, live⟩ := standing?_task.1 standing
    obtain ⟨others, all, -⟩ := jobs_of_task found (by rw [live]; rfl)
    exact ⟨true, others, all⟩

theorem hasEffect_stop (m : Moment) (n : Nat) : m.HasEffect (.stop n) := by
  have untaken := untaken_of_not_isStep (m := m) (e := .stop n) rfl
  cases found : m.session.task? n with
  | none =>
    exact hasEffect_of_same untaken (by simp [strands, found]) (by simp [react, Session.stop, found])
  | some t =>
    cases state : t.state with
    | stopping phase =>
      obtain ⟨others, all, changed⟩ := jobs_of_task found (by rw [state]; rfl)
      have hosts := (m.session.workshop.quiet_abandon t.request phase).hosts
      refine ⟨_, others, all, fun numbered _ => ?_, ?_⟩
      · simp only [react, Session.stop, found, Session.stopTask, state]
        exact changed numbered _ .superseded hosts
      · simp only [strands, react, Session.stop, found, Session.stopTask, state]
        exact .drop rfl
    | _ =>
      exact hasEffect_of_same untaken (by simp [strands, found, state])
        (by simp [react, Session.stop, found, Session.stopTask, state])

theorem hasEffect_proceed (m : Moment) (n : Nat) : m.HasEffect (.proceed n) := by
  have own {c : Client} (mine : (Event.proceed n).isStepOf c = true) : c = .task n := by
    cases c <;> simp_all [Event.isStepOf]
  cases found : m.session.task? n with
  | none =>
    exact hasEffect_of_same (fun c mine => by simp [own mine, standing?, found]) rfl
      (by simp [react, Session.proceed, found])
  | some t =>
    cases state : t.state with
    | live phase =>
      obtain ⟨others, all, changed⟩ := jobs_of_task found (by rw [state]; rfl)
      have standing : m.standing? (.task n) = some (t.request, phase) :=
        standing?_task.2 ⟨t, found, rfl, state⟩
      have next : m.react (.proceed n) =
          ⟨{ m.session with workshop := (m.session.workshop.advance t.request phase).2 }.setState
            t.ticket (.live (m.session.workshop.advance t.request phase).1), m.awaited⟩ := by
        simp only [react, Session.proceed, found, Session.advanceTask, state]
      rw [HasEffect, next]
      refine ⟨_, _, all, fun numbered ready => ?_, .step standing (by simp [Event.isStepOf])⟩
      exact changed numbered _ _ (Workshop.advance_steady ready t.request phase).hosts
    | _ =>
      exact hasEffect_of_same (fun c mine => by simp [own mine, standing?, found, state]) rfl
        (by simp [react, Session.proceed, found, Session.advanceTask, state])

theorem hasEffect_pursue (m : Moment) : m.HasEffect .pursue := by
  cases awaited : m.awaited with
  | none =>
    refine hasEffect_of_same (fun c mine => ?_) rfl (by simp [react, awaited])
    cases c with
    | user => exact awaited
    | task n => cases mine
  | some standing =>
    obtain ⟨r, phase⟩ := standing
    have next : m.react .pursue =
        ⟨{ m.session with workshop := (m.session.workshop.advance r phase).2 },
          some (r, (m.session.workshop.advance r phase).1)⟩ := by
      simp only [react, awaited]
    have standing : m.standing? .user = some (r, phase) := awaited
    rw [HasEffect, next]
    refine ⟨_, _, .of_eq (jobs_of_awaited awaited), fun _ ready => ?_, .step standing rfl⟩
    have hosts := (Workshop.advance_steady ready r phase).hosts
    simp only [jobs, awaitedJobs, Session.jobs, hosts]
    exact .refl _

theorem hasEffect_forsake (m : Moment) : m.HasEffect .forsake := by
  cases awaited : m.awaited with
  | none =>
    exact hasEffect_of_same (untaken_of_not_isStep rfl) (by simp [strands, awaited])
      (by simp [react, awaited])
  | some standing =>
    obtain ⟨r, phase⟩ := standing
    have next : m.react .forsake = ⟨m.session.giveUp r phase, none⟩ := by
      simp only [react, awaited]
    have gone : m.strands .forsake =
        ((phase.jobs m.session.workshop.hosts r false).filter
          (Job.strands m.session.workshop.machine.clock)).map Job.place := by
      simp only [strands, awaited]
    rw [HasEffect, next, gone]
    refine ⟨_, m.session.jobs, .of_eq (jobs_of_awaited awaited), fun _ _ => ?_, .drop rfl⟩
    have hosts := (m.session.workshop.quiet_abandon r phase).hosts
    simp only [jobs, awaitedJobs, Session.jobs, Session.giveUp, hosts]
    exact .refl _

theorem hasEffect_reclaim (m : Moment) : m.HasEffect .reclaim := by
  cases awaited : m.awaited with
  | some standing => exact hasEffect_of_same (untaken_of_not_isStep rfl) rfl (by simp [react, awaited])
  | none =>
    have next : m.react .reclaim = { m with session := m.session.reclaim } := by
      simp only [react, awaited]
    rw [HasEffect, next]
    refine ⟨m.jobs, m.jobs, .refl _, fun _ _ => .of_eq ?_, .reclaim awaited⟩
    exact jobs_congr m.session.quiet_reclaim.hosts m.session.jobs_dropTasks

/-- **What an event does.** -/
theorem hasEffect (m : Moment) (e : Event) : m.HasEffect e := by
  cases e with
  | stop n => exact m.hasEffect_stop n
  | proceed n => exact m.hasEffect_proceed n
  | pursue => exact m.hasEffect_pursue
  | forsake => exact m.hasEffect_forsake
  | reclaim => exact m.hasEffect_reclaim
  | submit expression label =>
    exact hasEffect_of_idle (untaken_of_not_isStep rfl) rfl rfl fun _ =>
      jobs_congr rfl (m.session.jobs_submit expression label)
  | cancel =>
    exact hasEffect_of_idle (untaken_of_not_isStep rfl) rfl rfl fun _ =>
      jobs_congr rfl m.session.jobs_stopInFlight
  | collect n slot =>
    have workshop := m.session.workshop_collect n slot
    exact hasEffect_of_idle (untaken_of_not_isStep rfl) rfl workshop fun numbered =>
      jobs_congr (by rw [workshop]) (Session.jobs_collect numbered n slot)
  | ask r =>
    cases awaited : m.awaited with
    | some standing => exact hasEffect_of_same (untaken_of_not_isStep rfl) rfl (by simp [react, awaited])
    | none =>
      refine hasEffect_of_idle (untaken_of_not_isStep rfl) rfl (by simp [react, awaited]) fun _ => ?_
      simp only [react, awaited, jobs, awaitedJobs]
      rfl
  | answer slot =>
    refine hasEffect_of_idle (untaken_of_not_isStep rfl) rfl ?_ fun _ => ?_
    · simp only [react]
      split
      · exact Session.workshop_keep ..
      · rfl
    · simp only [react]
      split
      · rename_i r verdict awaited
        simp only [jobs, awaitedJobs, awaited, Session.jobs, Session.workshop_keep,
          Session.tasks_keep]
        rfl
      · rfl
  | call slot x =>
    have quiet := m.session.workshop.quiet_call (m.session.slot slot) x
    exact ⟨_, _, .refl _, fun _ _ => .of_eq (jobs_of_hosts quiet.hosts), .call⟩
  | edit files =>
    exact ⟨_, _, .refl _, fun _ _ => .of_eq (jobs_of_hosts rfl),
      .machine rfl (m.session.workshop.machine.quiet_edit files) rfl⟩
  | wait time =>
    exact ⟨_, _, .refl _, fun _ _ => .of_eq (jobs_of_hosts rfl),
      .machine rfl (m.session.workshop.machine.quiet_waitUntil time) rfl⟩
  | land =>
    exact ⟨_, _, .refl _, fun _ _ => .of_eq (jobs_of_hosts m.session.quiet_land.hosts), .land⟩
  | copy source target => exact hasEffect_of_idle (untaken_of_not_isStep rfl) rfl rfl fun _ => rfl
  | clear slot => exact hasEffect_of_idle (untaken_of_not_isStep rfl) rfl rfl fun _ => rfl
  | dropHost number => exact hasEffect_of_idle (untaken_of_not_isStep rfl) rfl rfl fun _ => rfl
  | look => exact hasEffect_of_idle (untaken_of_not_isStep rfl) rfl rfl fun _ => rfl

/-! ### What stays -/

section

variable {runs left : List Job} {gone : List Place} {w : Workshop}

/-- An effect other than a step of a request asks nothing of the compiler. -/
theorem Effect.quiet (effect : m.Effect e runs left gone w) (other : e.isStep = false) :
    m.session.workshop.Quiet w := by
  cases effect with
  | idle untaken => exact .refl _
  | machine _ quiet scratches => exact m.session.workshop.quiet_machine quiet
  | step standing mine =>
    rw [Event.isStep_of_isStepOf mine] at other
    cases other
  | drop _ => exact m.session.workshop.quiet_abandon ..
  | call => exact m.session.workshop.quiet_call ..
  | land => exact m.session.quiet_land
  | reclaim idle => exact m.session.quiet_reclaim

/-- A step of a request is one of a client's, or there is none to take it. -/
theorem Effect.workshop_of_step (effect : m.Effect e runs left gone w) (step : e.isStep = true) :
    ((∀ c, e.isStepOf c = true → m.standing? c = none) ∧ w = m.session.workshop) ∨
      ∃ c r phase, m.standing? c = some (r, phase) ∧ e.isStepOf c = true ∧
        w = (m.session.workshop.advance r phase).2 := by
  cases effect with
  | idle untaken => exact .inl ⟨untaken, rfl⟩
  | @step _ c r phase _ _ standing mine => exact .inr ⟨c, r, phase, standing, mine, rfl⟩
  | machine other quiet scratches => simp [other] at step
  | drop other => simp [other] at step
  | _ => cases step

end

/-- An event other than a step of a request is quiet. -/
theorem quiet_react (m : Moment) {e : Event} (other : e.isStep = false) :
    m.session.workshop.Quiet (m.react e).session.workshop := by
  obtain ⟨runs, left, -, -, effect⟩ := m.hasEffect e
  exact effect.quiet other

/-- An event that is a step of a request is one of a client's, or there is none to take it. -/
theorem workshop_of_step (m : Moment) {e : Event} (step : e.isStep = true) :
    ((∀ c, e.isStepOf c = true → m.standing? c = none) ∧
        (m.react e).session.workshop = m.session.workshop) ∨
      ∃ c r phase, m.standing? c = some (r, phase) ∧ e.isStepOf c = true ∧
        (m.react e).session.workshop = (m.session.workshop.advance r phase).2 := by
  obtain ⟨runs, left, -, -, effect⟩ := m.hasEffect e
  exact effect.workshop_of_step step

/-- What an event does to a workshop is quiet, or a step of a request. -/
theorem quiet_or_advance (m : Moment) (e : Event) :
    m.session.workshop.Quiet (m.react e).session.workshop ∨
      ∃ r phase, (m.react e).session.workshop = (m.session.workshop.advance r phase).2 := by
  cases step : e.isStep with
  | false => exact .inl (m.quiet_react step)
  | true =>
    rcases m.workshop_of_step step with ⟨-, same⟩ | ⟨c, r, phase, -, -, advanced⟩
    · rw [same]
      exact .inl (.refl _)
    · exact .inr ⟨r, phase, advanced⟩

theorem steady_react (ready : m.session.workshop.Ready) (e : Event) :
    m.session.workshop.Steady (m.react e).session.workshop := by
  rcases m.quiet_or_advance e with quiet | ⟨r, phase, advanced⟩
  · exact quiet.steady
  · rw [advanced]
    exact Workshop.advance_steady ready r phase

/-- No event changes the hosts. -/
theorem steady_later (ready : m.session.workshop.Ready) (events : List Event) :
    m.session.workshop.Steady (m.after events).session.workshop :=
  (after_induction
    (P := fun m' => m.session.workshop.Steady m'.session.workshop ∧ m'.session.workshop.Ready)
    (fun _ e h => ⟨h.1.trans (steady_react h.2 e), (steady_react h.2 e).ready h.2⟩)
    ⟨.refl _, ready⟩ events).1

theorem steady_after {w : Workshop} (furnished : w.Furnished) (events : List Event) :
    w.Steady ((first w).after events).session.workshop :=
  steady_later (m := first w) furnished.ready events

end Moment

end Plotter
