import Plotter.Proofs.Session.Clients

/-!
# The books of a session

At each moment there are the runs of the tasks, those that were told to stop included, and the run
for which the user waits. The books of a moment account for them, for the instances, and for the
libraries that were left by requests that were stopped or given up after their runs were over
(`Moment.stranded`).

## What is proved

* `Moment.books_after`: the books are right at every moment, as long as the serial numbers of names
  have not come round.
-/

namespace Plotter

/-- The scratch directories of the hosts that the user holds. -/
def Session.rooms (s : Session) : List Nat :=
  (((List.range s.workshop.hosts.length).zip s.workshop.hosts).filter fun entry =>
    s.holds entry.1).map fun entry => entry.2.bench.scratch

namespace Moment

/-- The books of a moment. -/
def Books (m : Moment) (stranded : List Place) : Prop :=
  m.session.workshop.Books m.session.rooms m.jobs stranded

/-- The libraries that are left behind in a list of events, latest first. -/
def stranded : Moment → List Event → List Place
  | _, [] => []
  | m, e :: es => stranded (m.react e) es ++ m.strands e

@[simp] theorem stranded_nil (m : Moment) : m.stranded [] = [] := rfl

theorem stranded_append (m : Moment) (es fs : List Event) :
    m.stranded (es ++ fs) = (m.after es).stranded fs ++ m.stranded es := by
  induction es generalizing m with
  | nil => simp
  | cons e es ih => simp only [List.cons_append, stranded, after_cons, ih, List.append_assoc]

theorem stranded_concat (m : Moment) (es : List Event) (e : Event) :
    m.stranded (es ++ [e]) = (m.after es).strands e ++ m.stranded es := by
  rw [stranded_append]
  rfl

end Moment

namespace Session

variable {s : Session}

/-! ### Rooms -/

theorem mem_zip_hosts {hosts : List Host} {number : Nat} {host : Host} :
    (number, host) ∈ (List.range hosts.length).zip hosts ↔ hosts[number]? = some host := by
  constructor
  · intro member
    obtain ⟨i, bound, same⟩ := List.mem_iff_getElem.1 member
    rw [List.getElem_zip, List.getElem_range, Prod.mk.injEq] at same
    obtain ⟨rfl, rfl⟩ := same
    exact List.getElem?_eq_getElem _
  · intro found
    obtain ⟨bound, rfl⟩ := List.getElem?_eq_some_iff.1 found
    refine List.mem_iff_getElem.2 ⟨number, by simpa using bound, ?_⟩
    rw [List.getElem_zip, List.getElem_range]

theorem mem_rooms {room : Nat} :
    room ∈ s.rooms ↔ ∃ number host, s.workshop.hosts[number]? = some host ∧
      s.holds number = true ∧ host.bench.scratch = room := by
  simp only [rooms, List.mem_map, List.mem_filter, Prod.exists, mem_zip_hosts, and_assoc]

theorem rooms_subset {s' : Session} (hosts : s'.workshop.hosts = s.workshop.hosts)
    (letGo : s.letGo ⊆ s'.letGo) : s'.rooms ⊆ s.rooms := by
  intro room member
  obtain ⟨number, host, found, held, same⟩ := mem_rooms.1 member
  refine mem_rooms.2 ⟨number, host, hosts ▸ found, ?_, same⟩
  simp only [holds, Bool.not_eq_true', List.contains_eq_mem, decide_eq_false_iff_not] at held ⊢
  exact fun gone => held (letGo gone)

/-! ### Who holds which host -/

@[simp] theorem letGo_stop (s : Session) (n : Nat) : (s.stop n).letGo = s.letGo := by
  unfold stop
  split
  · unfold stopTask
    split <;> rfl
  · rfl

@[simp] theorem letGo_proceed (s : Session) (n : Nat) : (s.proceed n).letGo = s.letGo := by
  unfold proceed
  split
  · unfold advanceTask
    split <;> rfl
  · rfl

@[simp] theorem letGo_keep (s : Session) (e : Evaluation) (slot : Option String) :
    (s.keep e slot).letGo = s.letGo := by
  cases slot <;> rfl

@[simp] theorem letGo_collect (s : Session) (n : Nat) (slot : Option String) :
    (s.collect n slot).letGo = s.letGo := by
  rw [collect_eq]
  split
  · exact letGo_keep ..
  · rfl
  · rfl

end Session

/-! ### Events that keep the books -/

theorem Workshop.Books.perm {w : Workshop} {rooms rooms' : List Nat} {jobs jobs' : List Job}
    {stranded : List Place} (h : w.Books rooms jobs stranded) (fewer : rooms' ⊆ rooms)
    (order : jobs'.Perm jobs) : w.Books rooms' jobs' stranded :=
  Machine.Books.same h rfl (.refl _) fewer (.refl _) order (.refl _)

/-- The runs of several tasks land one after the other. -/
theorem Workshop.books_landAll {w : Workshop} {rooms : List Nat} {jobs : List Job}
    {stranded : List Place} {tasks : List Task} (h : w.Books rooms jobs stranded)
    (among : tasks.flatMap (Task.jobs w.hosts) ⊆ jobs) :
    (tasks.foldl (fun w t => match t.state.phase? with
      | some phase => w.land t.request phase
      | none => w) w).Books rooms jobs stranded := by
  induction tasks generalizing w with
  | nil => exact h
  | cons t tasks ih =>
    rw [List.flatMap_cons, List.append_subset] at among
    obtain ⟨own, others⟩ := among
    rw [List.foldl_cons]
    cases stands : t.state.phase? with
    | none => exact ih h others
    | some phase =>
      simp only [Task.jobs, stands] at own
      refine ih (Workshop.books_land h own) ?_
      rw [(w.quiet_land t.request phase).hosts]
      exact others

/-- Several scratch directories are removed one after the other. -/
theorem Machine.Books.closeAll {m : Machine} {names : NameSource} {g : Register}
    {unneeded : List (Nat × Host)} (h : m.Books names g)
    (unused : ∀ entry ∈ unneeded, entry.2.bench.scratch ∉ g.rooms ∧
      ∀ p ∈ g.lodged, p.scratch ≠ entry.2.bench.scratch) :
    (unneeded.foldl (fun m (_, host) => m.closeScratch host.bench.scratch) m).Books names g := by
  induction unneeded generalizing m with
  | nil => exact h
  | cons entry unneeded ih =>
    obtain ⟨unheld, unoccupied⟩ := unused entry (List.mem_cons_self ..)
    exact ih (h.closeScratch unheld unoccupied) fun other member =>
      unused other (List.mem_cons_of_mem entry member)

/-- The scratch directories that are not needed are removed. -/
theorem Session.books_closeScratches {s : Session} {jobs : List Job} {stranded : List Place}
    (h : s.workshop.Books s.rooms jobs stranded) (apart : s.workshop.Apart) :
    s.closeScratches.workshop.Books s.rooms jobs stranded := by
  refine Machine.Books.closeAll h fun ⟨number, host⟩ member => ?_
  obtain ⟨numbered, unneeded⟩ := List.mem_filter.1 member
  have found := mem_zip_hosts.1 numbered
  simp only [needsScratch, Bool.not_or, Bool.and_eq_true, Bool.not_eq_true'] at unneeded
  obtain ⟨⟨unheld, unoccupied⟩, -⟩ := unneeded
  refine ⟨fun room => ?_, fun p lodged same => ?_⟩
  · obtain ⟨number', host', found', held, same⟩ := mem_rooms.1 room
    obtain rfl := apart.number_eq found' found same
    simp [unheld] at held
  · obtain ⟨r, resident, rfl⟩ := List.mem_map.1 lodged
    rw [Workshop.occupies, List.any_eq_false] at unoccupied
    exact unoccupied r resident (beq_iff_eq.2 same)

namespace Moment

variable {m : Moment} {stranded : List Place}

/-- A host that was let go of stays so. -/
theorem letGo_react (m : Moment) (e : Event) : m.session.letGo ⊆ (m.react e).session.letGo := by
  cases e with
  | dropHost number => exact List.subset_cons_self ..
  | stop n => simp [react]
  | proceed n => simp [react]
  | collect n slot => simp [react]
  | answer slot =>
    simp only [react]
    split <;> simp
  | ask r =>
    simp only [react]
    split <;> exact List.Subset.refl _
  | pursue =>
    simp only [react]
    split <;> exact List.Subset.refl _
  | forsake =>
    simp only [react]
    split <;> exact List.Subset.refl _
  | reclaim =>
    simp only [react]
    split <;> exact List.Subset.refl _
  | _ => exact List.Subset.refl _

/-- **What an effect makes of the books.** -/
theorem Effect.books {e : Event} {runs left : List Job} {gone : List Place} {w : Workshop}
    (effect : m.Effect e runs left gone w) (ready : m.session.workshop.Ready)
    (tidy : m.session.workshop.machine.tool.Tidy) (apart : m.session.workshop.Apart)
    (bound : w.machine.attempts.length ≤ UInt64.size)
    (h : m.session.workshop.Books m.session.rooms runs stranded) :
    w.Books m.session.rooms left (gone ++ stranded) := by
  cases effect with
  | idle untaken => exact h
  | machine _ quiet scratches =>
    exact Workshop.Books.same h (m.session.workshop.quiet_machine quiet) scratches rfl
  | step standing mine => exact (Workshop.books_advance ready tidy h bound).1
  | drop _ => exact Workshop.books_abandon h
  | call => exact Workshop.books_call h ..
  | land =>
    exact Workshop.books_landAll h (List.subset_append_right m.awaitedJobs m.session.jobs)
  | reclaim idle =>
    have released : m.session.dropTasks.releaseInstances.workshop.Books m.session.rooms m.jobs
        stranded := Workshop.books_release h m.session.dropTasks.uses
    exact Session.books_closeScratches released apart

/-- **The books after an event.** -/
theorem books_react (h : m.Books stranded) (numbered : m.session.Numbered)
    (ready : m.session.workshop.Ready) (tidy : m.session.workshop.machine.tool.Tidy)
    (apart : m.session.workshop.Apart) (e : Event)
    (bound : (m.react e).session.workshop.machine.attempts.length ≤ UInt64.size) :
    (m.react e).Books (m.strands e ++ stranded) := by
  obtain ⟨runs, left, before, after, effect⟩ := m.hasEffect e
  have fewer : (m.react e).session.rooms ⊆ m.session.rooms :=
    Session.rooms_subset (steady_react ready e).hosts (m.letGo_react e)
  have kept := effect.books ready tidy apart bound (h.perm (List.Subset.refl _) before.symm)
  exact kept.perm fewer (after numbered ready)

/-- The books of a workshop in which nothing was done. -/
theorem books_first {w : Workshop} (h : w.Untouched) : (first w).Books [] := by
  have places : Register.places ⟨(first w).session.rooms, [], [], []⟩ = [] := rfl
  have jobs : (first w).jobs = [] := rfl
  unfold Moment.Books Workshop.Books
  rw [jobs]
  change w.machine.Books w.names ⟨_, w.residents.map Resident.place, [], []⟩
  rw [h.residents, List.map_nil]
  refine ⟨by simp [h.issued, h.attempts], List.nodup_nil, by simp [places], by simp, ?_, ?_,
    fun p => Machine.Books.entry_of_vacant (by simp [places]) (Machine.at?_of_empty h.empty p)⟩
  · intro number s found
    have member : s ∈ w.machine.scratches := List.mem_of_find?_eq_some found
    simp [h.empty s member]
  · intro room held
    obtain ⟨number, host, found, -, rfl⟩ := Session.mem_rooms.1 held
    exact (h.roomed host (List.mem_of_getElem? found)).2

/-- **The books are right at every moment**, as long as the serial numbers of names have not come
round. -/
theorem books_after {w : Workshop} (furnished : w.Furnished) (tidy : w.machine.tool.Tidy)
    (events : List Event)
    (bound : ((first w).after events).session.workshop.machine.attempts.length ≤ UInt64.size) :
    ((first w).after events).Books ((first w).stranded events) := by
  -- The induction is on the events from the last one back, since an event leaves behind what was
  -- under way after all those before it.
  induction events using List.reverseRecOn with
  | nil => exact books_first furnished.untouched
  | append_singleton events e ih =>
    have steady := steady_after furnished events
    have ready := steady.ready furnished.ready
    rw [after_append, after_cons, after_nil] at bound ⊢
    rw [stranded_concat]
    have grows := (steady_react ready e).machine.recorded.length_le
    refine books_react (ih (Nat.le_trans grows bound)) (numbered_after w events) ready ?_
      (steady.apart furnished.untouched.apart) e bound
    rw [steady.machine.tool]
    exact tidy

end Moment

end Plotter
