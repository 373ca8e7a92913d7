import Plotter.Proofs.Request.Landing
import Plotter.Proofs.Session.Leavings

/-!
# What has landed in a session

The runs of the compiler that tasks have under way leave what they leave when they are over, and
`Session.land` puts it there. Once this was done, doing it again changes nothing, nor does it if a
task stops.

## What is proved

* `Session.at?_land`: what stays as it is when the runs of the tasks land.
* `Moment.landed_land`: once they have landed, everything is there that they left.
* `Moment.phases_after`: what each step of a request preserves holds of the request of every task.
-/

namespace Plotter

namespace Session

variable {s : Session} {p : Place}

theorem clock_land (s : Session) : s.land.workshop.machine.clock = s.workshop.machine.clock := by
  simp only [land]
  generalize s.tasks = tasks
  generalize s.workshop = w
  induction tasks generalizing w with
  | nil => rfl
  | cons t tasks ih =>
    rw [List.foldl_cons, ih]
    split
    · exact w.clock_land ..
    · rfl

/-- **Where everything has landed nothing changes** when the runs of the tasks land. -/
theorem at?_land (landed : ∀ t ∈ s.tasks, ∀ phase, t.state.phase? = some phase →
    s.workshop.LandedAt p t.request phase) :
    s.land.workshop.machine.at? p = s.workshop.machine.at? p := by
  simp only [land]
  generalize s.tasks = tasks at landed
  generalize s.workshop = w at landed
  induction tasks generalizing w with
  | nil => rfl
  | cons t tasks ih =>
    rw [List.foldl_cons]
    cases stands : t.state.phase? with
    | none => exact ih w fun u member => landed u (List.mem_cons_of_mem t member)
    | some phase =>
      have own := landed t List.mem_cons_self phase stands
      refine (ih _ fun u member phase' stands' => ?_).trans own.at?_land
      have other := landed u (List.mem_cons_of_mem t member) phase' stands'
      exact other.congr (w.quiet_land t.request phase).hosts (w.clock_land t.request phase)
        (w.sameRooms_land t.request phase) own.at?_land

/-- The runs of the tasks land one after the other. -/
theorem land_split {before after : List Task} {t : Task} {phase : Phase}
    (tasks : s.tasks = before ++ t :: after) (stands : t.state.phase? = some phase) :
    s.land.workshop =
      Session.workshop (land { s with
        tasks := after
        workshop := (land { s with tasks := before }).workshop.land t.request phase }) := by
  simp only [land, tasks, List.foldl_append, List.foldl_cons, stands]

/-- Everything that the runs of the tasks have left is there. -/
def Landed (s : Session) : Prop :=
  ∀ t ∈ s.tasks, ∀ phase, t.state.phase? = some phase →
    ∀ p, s.workshop.LandedAt p t.request phase

end Session

/-- A task that waits for a run has that run under way, and no other. -/
theorem Task.jobs_of_compiling {hosts : List Host} {t : Task} {retried : UInt32} {c : Compilation}
    (stands : t.state.phase? = some (.compiling retried c)) {host : Host}
    (found : hosts[t.request.host]? = some host) :
    t.jobs hosts = [⟨host.bench.scratch, c, true⟩] := by
  simp only [Task.jobs, stands, Phase.jobs_compiling found]

namespace Moment

variable {m : Moment}

/-- The run for which a task waits is under way. -/
theorem job_of_task {t : Task} (member : t ∈ m.session.tasks) {retried : UInt32} {c : Compilation}
    (stands : t.state.phase? = some (.compiling retried c)) {host : Host}
    (found : m.session.workshop.hosts[t.request.host]? = some host) :
    (⟨host.bench.scratch, c, true⟩ : Job) ∈ m.jobs := by
  refine List.mem_append_right _ (List.mem_flatMap.2 ⟨t, member, ?_⟩)
  rw [Task.jobs_of_compiling stands found, List.mem_singleton]

/-- **Once the runs of the tasks have landed, everything is there that they left.** -/
theorem landed_land (ledger : m.Ledger) : m.session.land.Landed := by
  intro t member phase stands p host retried c found compiling own
  rw [m.session.quiet_land.hosts] at found
  subst compiling own
  obtain ⟨before, after, tasks⟩ := List.append_of_mem (show t ∈ m.session.tasks from member)
  let j : Job := ⟨host.bench.scratch, c, true⟩
  have job : t.jobs m.session.workshop.hosts = [j] := Task.jobs_of_compiling stands found
  have jobs : m.session.jobs = before.flatMap (Task.jobs m.session.workshop.hosts) ++
      j :: after.flatMap (Task.jobs m.session.workshop.hosts) := by
    rw [Session.jobs, tasks, List.flatMap_append, List.flatMap_cons, job]
    rfl
  -- The run lands when those before it have.
  let first : Session := Session.land { m.session with tasks := before }
  have early : first.workshop.Ledger m.jobs := by
    have those (k : Job) (among : k ∈ before.flatMap (Task.jobs m.session.workshop.hosts)) :
        k ∈ m.jobs := List.mem_append_right _ (jobs ▸ List.mem_append_left _ among)
    exact Workshop.ledger_landAll ledger those
  have hosts : first.workshop.hosts = m.session.workshop.hosts :=
    (Session.quiet_land { m.session with tasks := before }).hosts
  have landed : (first.workshop.land t.request (.compiling retried c)).LandedAt
      (host.bench.placeOf c.unit) t.request (.compiling retried c) := by
    intro host' retried' c' found' same _
    obtain ⟨rfl, rfl⟩ := Phase.compiling.inj same
    rw [(first.workshop.quiet_land ..).hosts, hosts, found] at found'
    obtain rfl := Option.some.inj found'
    have here : first.workshop.land t.request (.compiling retried c) =
        { first.workshop with machine := host.bench.land first.workshop.machine c } := by
      simp only [Workshop.land, hosts, found]
    rw [here]
    exact Bench.landed_land (Machine.Ledger.own early (j := j)
      (List.mem_append_right _ (jobs ▸ List.mem_append_right _ List.mem_cons_self)))
  -- Those after it have other places.
  let last : Session := { m.session with
    tasks := after, workshop := first.workshop.land t.request (.compiling retried c) }
  have others : last.land.workshop.machine.at? (host.bench.placeOf c.unit) =
      last.workshop.machine.at? (host.bench.placeOf c.unit) := by
    refine Session.at?_land fun u among phase' stands' host' retried' c' found' compiling' same => ?_
    subst compiling'
    rw [(first.workshop.quiet_land ..).hosts, hosts] at found'
    have theirs : ⟨host'.bench.scratch, c', true⟩ ∈
        after.flatMap (Task.jobs m.session.workshop.hosts) := by
      refine List.mem_flatMap.2 ⟨u, among, ?_⟩
      rw [Task.jobs_of_compiling stands' found', List.mem_singleton]
    have distinct := Machine.Ledger.distinct ledger
    rw [Moment.jobs, jobs, List.map_append, List.map_append, List.map_cons] at distinct
    have unlike := (List.nodup_cons.1 (distinct.of_append_right.of_append_right)).1
    exact absurd (List.mem_map.2 ⟨_, theirs, same⟩) unlike
  have stays := landed.congr last.quiet_land.hosts last.clock_land last.sameRooms_land others
  rw [Session.land_split tasks stands]
  refine stays host retried c ?_ rfl rfl
  rw [last.quiet_land.hosts, (first.workshop.quiet_land ..).hosts, hosts, found]

/-- How far a task has come after an event: where it was, or a step further. -/
theorem phase?_nextState {e : Event} {t : Task} {phase' : Phase}
    (stands : (m.nextState e t).phase? = some phase') :
    ∃ phase, t.state.phase? = some phase ∧
      (phase' = phase ∨ phase' = (m.session.workshop.advance t.request phase).1) := by
  cases e with
  | submit expression label =>
    simp only [nextState] at stands
    split at stands
    · exact ⟨phase', t.state.phase?_stop ▸ stands, .inl rfl⟩
    · exact ⟨phase', stands, .inl rfl⟩
  | cancel =>
    simp only [nextState] at stands
    split at stands
    · exact ⟨phase', t.state.phase?_stop ▸ stands, .inl rfl⟩
    · exact ⟨phase', stands, .inl rfl⟩
  | stop n =>
    simp only [nextState] at stands
    split at stands
    · cases state : t.state with
      | stopping phase => simp [state, TaskState.halt, TaskState.phase?] at stands
      | live phase => exact ⟨phase', by simpa [state, TaskState.halt] using stands, .inl rfl⟩
      | superseded => simp [state, TaskState.halt, TaskState.phase?] at stands
    · exact ⟨phase', stands, .inl rfl⟩
  | proceed n =>
    simp only [nextState] at stands
    split at stands
    · cases state : t.state with
      | live phase =>
        simp only [Session.stepState, state, TaskState.phase?, Option.some.injEq] at stands
        exact ⟨phase, rfl, .inr stands.symm⟩
      | stopping phase =>
        exact ⟨phase', by simpa [Session.stepState, state] using stands, .inl rfl⟩
      | superseded => simp [Session.stepState, state, TaskState.phase?] at stands
    · exact ⟨phase', stands, .inl rfl⟩
  | _ => exact ⟨phase', stands, .inl rfl⟩

/-- **What holds of every task's request**, be it told to stop or not. It holds of a request that
has not begun, and each step of a request preserves it. -/
theorem phases_after {w : Workshop} (furnished : w.Furnished) {P : Request → Phase → Prop}
    (queued : ∀ r, P r .queued)
    (step : ∀ (w' : Workshop) r phase, w.Steady w' → P r phase → P r (w'.advance r phase).1)
    (events : List Event) {t : Task} (member : t ∈ ((first w).after events).session.tasks)
    {phase : Phase} (stands : t.state.phase? = some phase) : P t.request phase := by
  induction events using List.reverseRecOn generalizing t phase with
  | nil => simp [first] at member
  | append_singleton events e ih =>
    rw [after_append, after_cons, after_nil] at member
    rcases mem_react (numbered_after w events) e member with
      ⟨expression, label, -, rfl⟩ | ⟨u, there, -, request, state⟩
    · obtain rfl := Option.some.inj stands
      exact queued _
    · rw [state] at stands
      rw [request]
      obtain ⟨phase', before, rfl | rfl⟩ := phase?_nextState stands
      · exact ih there before
      · exact step _ _ _ (steady_after furnished events) (ih there before)

/-- What holds of whatever becomes of a call holds of the runs of all tasks. -/
theorem responses_after {w : Workshop} (furnished : w.Furnished) {P : Response → Prop}
    (unstarted : ∀ fault, P (.unstarted fault))
    (answers : ∀ earlier call, P (w.machine.tool.respond earlier call)) (events : List Event)
    {t : Task} (member : t ∈ ((first w).after events).session.tasks) {retried : UInt32}
    {c : Compilation} (stands : t.state.phase? = some (.compiling retried c)) : P c.response := by
  refine phases_after furnished
    (P := fun _ phase => ∀ retried c, phase = .compiling retried c → P c.response) ?_ ?_ events
    member stands retried c rfl
  · intro r retried c compiling
    cases compiling
  · intro w' r phase steady before counter c begun
    exact Workshop.of_response_advance unstarted (steady.machine.tool.symm ▸ answers)
      (steady.ready furnished.ready) before begun

/-- No task has a run that leaves what cannot be removed. -/
theorem removable_after {w : Workshop} (furnished : w.Furnished)
    (removable : w.machine.tool.Removable) (events : List Event) {t : Task}
    (member : t ∈ ((first w).after events).session.tasks) {phase : Phase}
    (stands : t.state.phase? = some phase) : phase.Removable := by
  rintro retried c rfl
  exact responses_after furnished (P := Response.Removable) (fun _ => trivial) removable events
    member stands

end Moment

end Plotter
