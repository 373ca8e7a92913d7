import Plotter.Proofs.Session.Keeping

/-!
# Handles and the instances that they are on

A handle that the user has is in a slot, or with a client whose request is at its end
(`Moment.Offers`). It is on an instance that is there, and the library of that instance has its name
from the unit of the handle (`Workshop.Serves`).

## What is proved

* `Moment.tenanted_after`: at every moment the numbers of instances are distinct, and every handle
  is on an instance that is there.
-/

namespace Plotter

namespace Workshop

/-- The instances that are there, by their numbers, with the places of their libraries. -/
def tenants (w : Workshop) : List (Nat × Place) := w.residents.map fun r => (r.number, r.place)

/-- A handle is on an instance that is there, of the unit that it names. -/
def Serves (w : Workshop) : Handle → Prop
  | .null => True
  | .compiled number unit => ∃ (names : UnitNames) (scratch : Nat),
      unit = names.qualified ∧ (number, ⟨scratch, Settings.libraryFile names⟩) ∈ w.tenants

variable {w w' : Workshop}

theorem Serves.mono {handle : Handle} (h : w.Serves handle) (more : w.tenants ⊆ w'.tenants) :
    w'.Serves handle := by
  cases handle with
  | null => trivial
  | compiled number unit =>
    obtain ⟨names, scratch, same, member⟩ := h
    exact ⟨names, scratch, same, more member⟩

/-- What a step of a request adds to the instances. -/
theorem Gains.tenants {scratch : Nat} {handle : Handle} (h : Gains w w' scratch handle) :
    (w'.tenants = w.tenants ∧ w'.made = w.made ∧ handle = .null) ∨
      ∃ names, w'.tenants = w.tenants ++ [(w.made, ⟨scratch, Settings.libraryFile names⟩)] ∧
        w'.made = w.made + 1 ∧ handle = .compiled w.made names.qualified := by
  cases h with
  | nothing residents made => exact .inl ⟨by rw [Workshop.tenants, residents]; rfl, made, rfl⟩
  | @one names body residents made =>
    refine .inr ⟨names, ?_, made, rfl⟩
    rw [Workshop.tenants, residents, List.map_append]
    rfl

/-- Calling an instance leaves the others alone, and it stays where it is. -/
theorem tenants_call (w : Workshop) (handle : Handle) (x : Float) :
    (w.call handle x).2.tenants = w.tenants ∧ (w.call handle x).2.made = w.made := by
  cases handle with
  | null => exact ⟨rfl, rfl⟩
  | compiled number unit =>
    simp only [call]
    split
    · exact ⟨rfl, rfl⟩
    · refine ⟨?_, rfl⟩
      simp only [tenants, List.map_map]
      refine List.map_congr_left fun r _ => ?_
      simp only [Function.comp]
      split <;> rfl

theorem tenants_release (w : Workshop) (inUse : Nat → Bool) :
    (w.release inUse).tenants = w.tenants.filter (fun t => inUse t.1) ∧
      (w.release inUse).made = w.made := by
  refine ⟨?_, rfl⟩
  simp only [release, tenants, List.partition_eq_filter_filter, List.filter_map]
  rfl

end Workshop

namespace Moment

/-- A handle that the user has, or has coming. -/
inductive Offers (m : Moment) (handle : Handle) : Prop
  /-- It is in a slot. -/
  | slot {name : String} (member : (name, handle) ∈ m.session.slots)
  /-- It is that of a request at its end. -/
  | client {c : Client} {r : Request} {phase : Phase} (standing : m.standing? c = some (r, phase))
      (own : phase.handle = handle)

/-- Instances have numbers of their own, and every handle is on one that is there. -/
structure Tenanted (m : Moment) : Prop where
  distinct : (m.session.workshop.tenants.map Prod.fst).Nodup
  below : ∀ t ∈ m.session.workshop.tenants, t.1 < m.session.workshop.made
  served : ∀ handle, m.Offers handle → m.session.workshop.Serves handle

variable {m : Moment} {handle : Handle}

/-! ### Where handles come from -/

theorem offers_of_slot (m : Moment) (name : String) :
    m.session.slot name = .null ∨ m.Offers (m.session.slot name) := by
  unfold Session.slot
  cases found : m.session.slots.lookup name with
  | none => exact .inl rfl
  | some handle =>
    obtain ⟨before, after, split, -⟩ := List.lookup_eq_some_iff.1 found
    have member : (name, handle) ∈ m.session.slots := by simp [split]
    exact .inr (.slot member)

/-- The handles in slots after one was put into a slot. -/
theorem of_mem_keep {s : Session} {e : Evaluation} {slot : Option String} {name : String}
    (member : (name, handle) ∈ (s.keep e slot).slots) :
    handle = e.handle ∨ (name, handle) ∈ s.slots := by
  cases slot with
  | none => exact .inr member
  | some slot =>
    rcases List.mem_cons.1 member with new | old
    · exact .inl (congrArg Prod.snd new)
    · exact .inr (List.mem_filter.1 old).1

theorem slots_stop (s : Session) (n : Nat) : (s.stop n).slots = s.slots := by
  unfold Session.stop
  split
  · unfold Session.stopTask
    split <;> rfl
  · rfl

theorem slots_proceed (s : Session) (n : Nat) : (s.proceed n).slots = s.slots := by
  unfold Session.proceed
  split
  · unfold Session.advanceTask
    split <;> rfl
  · rfl

theorem slots_take (s : Session) (n : Nat) : (s.take n).2.slots = s.slots := by
  unfold Session.take
  split <;> rfl

/-- A handle in a slot after an event was there before, or with a client. -/
theorem offers_of_mem_slots {e : Event} {name : String}
    (member : (name, handle) ∈ (m.react e).session.slots) : handle = .null ∨ m.Offers handle := by
  cases e with
  | stop n => exact .inr (.slot (slots_stop m.session n ▸ member))
  | proceed n => exact .inr (.slot (slots_proceed m.session n ▸ member))
  | collect n slot =>
    have slots := slots_take m.session n
    simp only [react, Session.collect] at member
    split at member
    · rename_i e s taken
      rw [taken] at slots
      dsimp only at slots
      rcases of_mem_keep member with rfl | old
      · obtain ⟨r, standing, -⟩ := standing?_of_take (congrArg Prod.fst taken)
        exact .inr (.client standing rfl)
      · exact .inr (.slot (slots ▸ old))
    · rename_i outcome s unready taken
      rw [taken] at slots
      dsimp only at slots
      exact .inr (.slot (slots ▸ member))
  | answer slot =>
    simp only [react] at member
    split at member
    · rename_i r verdict awaited
      rcases of_mem_keep member with rfl | old
      · have standing : m.standing? .user = some (r, .done verdict) := awaited
        exact .inr (.client standing rfl)
      · exact .inr (.slot old)
    · exact .inr (.slot member)
  | ask r =>
    simp only [react] at member
    split at member <;> exact .inr (.slot member)
  | pursue =>
    simp only [react] at member
    split at member <;> exact .inr (.slot member)
  | forsake =>
    simp only [react] at member
    split at member <;> exact .inr (.slot member)
  | copy source target =>
    rcases List.mem_cons.1 member with new | old
    · obtain rfl : handle = m.session.slot source := congrArg Prod.snd new
      exact m.offers_of_slot source
    · exact .inr (.slot (List.mem_filter.1 old).1)
  | clear slot => exact .inr (.slot (List.mem_filter.1 member).1)
  | reclaim =>
    simp only [react] at member
    split at member <;> exact .inr (.slot member)
  | _ => exact .inr (.slot member)

/-- A client that comes with an event has no handle yet. -/
theorem handle_of_new (numbered : m.session.Numbered) {e : Event} {c : Client} {r : Request}
    {phase : Phase} (new : ¬m.Lasts e c) (standing : (m.react e).standing? c = some (r, phase)) :
    phase.handle = .null ∨ m.Offers phase.handle := by
  rcases standing?_of_new numbered new standing with rfl | before
  · exact .inl rfl
  · exact .inr (.client before rfl)

/-- **Where a handle comes from.** It was there before an event, or the event is the step of a
request which is at its end with it. -/
theorem offers_before (numbered : m.session.Numbered) {e : Event}
    (offered : (m.react e).Offers handle) :
    handle = .null ∨ m.Offers handle ∨ ∃ c r phase phase', m.standing? c = some (r, phase) ∧
      e.isStepOf c = true ∧
      m.session.workshop.advance r phase = (phase', (m.react e).session.workshop) ∧
      phase'.handle = handle := by
  cases offered with
  | slot member => exact (offers_of_mem_slots member).imp id .inl
  | @client c r phase' standing own =>
    by_cases lasts : m.Lasts e c
    · obtain ⟨phase, before, step⟩ := standing?_before numbered lasts standing
      split at step
      · rename_i mine
        exact .inr (.inr ⟨c, r, phase, phase', before, mine, step, own⟩)
      · subst step
        exact .inr (.inl (.client before own))
    · rw [← own]
      exact (handle_of_new numbered lasts standing).imp id .inl

/-! ### What events do to instances -/

theorem residents_abandon (w : Workshop) (r : Request) (phase : Phase) :
    (w.abandon r phase).residents = w.residents ∧ (w.abandon r phase).made = w.made := by
  unfold Workshop.abandon
  split <;> exact ⟨rfl, rfl⟩

theorem residents_land (s : Session) :
    s.land.workshop.residents = s.workshop.residents ∧
      s.land.workshop.made = s.workshop.made := by
  simp only [Session.land]
  generalize s.tasks = tasks
  generalize s.workshop = w
  induction tasks generalizing w with
  | nil => exact ⟨rfl, rfl⟩
  | cons t tasks ih =>
    have landed (r : Request) (phase : Phase) :
        (w.land r phase).residents = w.residents ∧ (w.land r phase).made = w.made := by
      unfold Workshop.land
      split <;> exact ⟨rfl, rfl⟩
    rw [List.foldl_cons]
    split
    · rename_i phase _
      obtain ⟨residents, made⟩ := ih (w.land t.request phase)
      exact ⟨residents.trans (landed ..).1, made.trans (landed ..).2⟩
    · exact ih w

theorem tenants_reclaim (s : Session) :
    s.reclaim.workshop.tenants = s.workshop.tenants.filter (fun t => s.dropTasks.uses t.1) ∧
      s.reclaim.workshop.made = s.workshop.made :=
  s.workshop.tenants_release s.dropTasks.uses

/-- An effect that is no step of a request and no call leaves the instances as they are, unless what
is not needed is let go of. -/
theorem Effect.residents {e : Event} {runs left : List Job} {gone : List Place} {w : Workshop}
    (effect : m.Effect e runs left gone w) (other : e.isStep = false)
    (uncalled : ∀ slot x, e ≠ .call slot x) (kept : e ≠ .reclaim) :
    w.residents = m.session.workshop.residents ∧ w.made = m.session.workshop.made := by
  cases effect with
  | idle untaken => exact ⟨rfl, rfl⟩
  | machine _ quiet scratches => exact ⟨rfl, rfl⟩
  | step standing mine =>
    rw [Event.isStep_of_isStepOf mine] at other
    cases other
  | drop _ => exact residents_abandon m.session.workshop _ _
  | @call slot x => exact absurd rfl (uncalled slot x)
  | land => exact residents_land m.session
  | reclaim idle => exact absurd rfl kept

/-- An event that is no step of a request and no call, and in which nothing is let go of, leaves the
instances as they are. -/
theorem residents_aside (m : Moment) {e : Event} (other : e.isStep = false)
    (uncalled : ∀ slot x, e ≠ .call slot x) (kept : e ≠ .reclaim) :
    (m.react e).session.workshop.residents = m.session.workshop.residents ∧
      (m.react e).session.workshop.made = m.session.workshop.made := by
  obtain ⟨runs, left, -, -, effect⟩ := m.hasEffect e
  exact effect.residents other uncalled kept

/-- An event that is no step of a request and no call leaves the instances as they are, unless what
is not needed is let go of. -/
theorem residents_react (m : Moment) {e : Event} (other : e.isStep = false)
    (uncalled : ∀ slot x, e ≠ .call slot x) :
    (m.react e).session.workshop.made = m.session.workshop.made ∧
      ((m.react e).session.workshop.residents = m.session.workshop.residents ∨
        m.react e = ⟨m.session.reclaim, none⟩) := by
  by_cases reclaim : e = .reclaim
  · subst reclaim
    simp only [react]
    split
    · rename_i idle
      exact ⟨(tenants_reclaim m.session).2, .inr (by rw [idle])⟩
    · exact ⟨rfl, .inl rfl⟩
  · obtain ⟨residents, made⟩ := m.residents_aside other uncalled reclaim
    exact ⟨made, .inl residents⟩

/-- An event that is no step of a request leaves the libraries of instances where they are, unless
what is not needed is let go of. -/
theorem tenants_react (m : Moment) {e : Event} (other : e.isStep = false) :
    (m.react e).session.workshop.made = m.session.workshop.made ∧
      ((m.react e).session.workshop.tenants = m.session.workshop.tenants ∨
        m.react e = ⟨m.session.reclaim, none⟩) := by
  by_cases called : ∃ slot x, e = .call slot x
  · obtain ⟨slot, x, rfl⟩ := called
    obtain ⟨tenants, made⟩ := m.session.workshop.tenants_call (m.session.slot slot) x
    exact ⟨made, .inl tenants⟩
  · obtain ⟨made, same⟩ := m.residents_react other fun slot x call => called ⟨slot, x, call⟩
    exact ⟨made, same.imp_left fun residents => by simp only [Workshop.tenants, residents]⟩

theorem client_unique {e : Event} {c c' : Client} (h : e.isStepOf c = true)
    (h' : e.isStepOf c' = true) : c = c' := by
  cases e <;> cases c <;> cases c' <;> simp_all [Event.isStepOf]

/-- The handles that tasks hold are those of their requests. -/
theorem offers_of_mem_handles (numbered : m.session.Numbered)
    (member : handle ∈ m.session.handles) : handle = .null ∨ m.Offers handle := by
  rcases List.mem_append.1 member with slot | task
  · obtain ⟨⟨name, handle⟩, there, rfl⟩ := List.mem_map.1 slot
    exact .inr (.slot there)
  · obtain ⟨t, there, rfl⟩ := List.mem_map.1 task
    unfold TaskState.handle
    split
    · rename_i verdict state
      have standing : m.standing? (.task t.ticket) = some (t.request, .done verdict) :=
        standing?_task.2 ⟨t, numbered.task?_eq there, rfl, state⟩
      exact .inr (.client standing rfl)
    · exact .inl rfl

/-- Every handle that a moment without an awaited request offers is one that the user has. -/
theorem mem_handles_of_offers (idle : m.awaited = none) {number : Nat} {unit : String}
    (offered : m.Offers (.compiled number unit)) : .compiled number unit ∈ m.session.handles := by
  cases offered with
  | slot member => exact List.mem_append_left _ (List.mem_map_of_mem member)
  | @client c r phase standing own =>
    cases c with
    | user => simp [standing?, idle] at standing
    | task n =>
      obtain ⟨t, found, -, live⟩ := standing?_task.1 standing
      refine List.mem_append_right _ (List.mem_map.2 ⟨t, Session.mem_of_task? found, ?_⟩)
      rw [live]
      cases phase with
      | done verdict => exact own
      | queued => simp [Phase.handle] at own
      | compiling retried c => simp [Phase.handle] at own

/-- Where instances stay as they are, handles need only be on those that were there. -/
theorem Tenanted.stay (h : m.Tenanted) {m' : Moment}
    (tenants : m'.session.workshop.tenants = m.session.workshop.tenants)
    (made : m'.session.workshop.made = m.session.workshop.made)
    (served : ∀ handle, m'.Offers handle → m.session.workshop.Serves handle) : m'.Tenanted := by
  refine ⟨?_, ?_, fun handle offered => ?_⟩
  · rw [tenants]
    exact h.distinct
  · rw [tenants, made]
    exact h.below
  · refine (served handle offered).mono ?_
    rw [tenants]
    exact List.Subset.refl _

/-- An instance that is made has a number of its own. -/
theorem Tenanted.add (h : m.Tenanted) {m' : Moment} {p : Place}
    (tenants : m'.session.workshop.tenants =
      m.session.workshop.tenants ++ [(m.session.workshop.made, p)])
    (made : m'.session.workshop.made = m.session.workshop.made + 1)
    (served : ∀ handle, m'.Offers handle → m'.session.workshop.Serves handle) : m'.Tenanted := by
  refine ⟨?_, fun t member => ?_, served⟩
  · rw [tenants, List.map_append, List.nodup_append]
    refine ⟨h.distinct, by simp, ?_⟩
    intro number old number' new
    obtain ⟨t, member, rfl⟩ := List.mem_map.1 old
    rw [List.map_cons, List.map_nil, List.mem_singleton] at new
    have earlier := h.below t member
    omega
  · rw [tenants] at member
    rw [made]
    rcases List.mem_append.1 member with old | new
    · have earlier := h.below t old
      omega
    · rw [List.mem_singleton.1 new]
      exact Nat.lt_succ_self _

/-- What is let go of is not needed: a handle that the user has keeps its instance. -/
theorem Tenanted.reclaim (h : m.Tenanted)
    (served : ∀ handle, Offers ⟨m.session.reclaim, none⟩ handle →
      m.session.workshop.Serves handle) : Tenanted ⟨m.session.reclaim, none⟩ := by
  obtain ⟨fewer, made⟩ := tenants_reclaim m.session
  refine ⟨?_, fun t member => ?_, fun handle offered => ?_⟩
  · dsimp only
    rw [fewer]
    exact (List.filter_sublist.map Prod.fst).nodup h.distinct
  · dsimp only at member ⊢
    rw [fewer] at member
    rw [made]
    exact h.below t (List.mem_filter.1 member).1
  · have kept := served handle offered
    cases handle with
    | null => trivial
    | compiled number unit =>
      obtain ⟨names, scratch, same, member⟩ := kept
      have held : m.session.dropTasks.uses number = true :=
        List.any_eq_true.2 ⟨_, mem_handles_of_offers rfl offered, by simp [Handle.number?]⟩
      refine ⟨names, scratch, same, ?_⟩
      dsimp only
      rw [fewer]
      exact List.mem_filter.2 ⟨member, held⟩

/-- An event that is no step of a request takes no instance from under a handle. -/
theorem Tenanted.other (h : m.Tenanted) (numbered : m.session.Numbered) {e : Event}
    (other : e.isStep = false) : (m.react e).Tenanted := by
  have served (handle : Handle) (offered : (m.react e).Offers handle) :
      m.session.workshop.Serves handle := by
    rcases offers_before numbered offered with rfl | old | ⟨c, r, phase, phase', -, mine, -, -⟩
    · trivial
    · exact h.served handle old
    · rw [Event.isStep_of_isStepOf mine] at other
      cases other
  obtain ⟨made, same | reclaimed⟩ := m.tenants_react other
  · exact h.stay same made served
  · rw [reclaimed] at served ⊢
    exact h.reclaim served

/-- The handles there are after a step of a client's request: those of before, and its own. -/
theorem offers_of_step (numbered : m.session.Numbered) {e : Event} {c : Client} {r : Request}
    {phase : Phase} (standing : m.standing? c = some (r, phase)) (mine : e.isStepOf c = true)
    (offered : (m.react e).Offers handle) : handle = .null ∨ m.Offers handle ∨
      (m.session.workshop.advance r phase).1.handle = handle := by
  rcases offers_before numbered offered with none | old |
    ⟨c', r', phase₀, phase', standing', mine', stepped, own⟩
  · exact .inl none
  · exact .inr (.inl old)
  · obtain rfl := client_unique mine mine'
    rw [standing, Option.some.injEq, Prod.mk.injEq] at standing'
    obtain ⟨rfl, rfl⟩ := standing'
    rw [stepped]
    exact .inr (.inr own)

/-- A step of a request takes no instance away, and its handle is on the one that it made. -/
theorem Tenanted.step (h : m.Tenanted) {stranded : List Place} (books : m.Books stranded)
    (numbered : m.session.Numbered) (ready : m.session.workshop.Ready)
    (tidy : m.session.workshop.machine.tool.Tidy) {e : Event} (step : e.isStep = true)
    (bound : (m.react e).session.workshop.machine.attempts.length ≤ UInt64.size) :
    (m.react e).Tenanted := by
  rcases m.workshop_of_step step with ⟨idle, same⟩ | ⟨c, r, phase, standing, mine, advanced⟩
  · refine h.stay (by rw [same]) (by rw [same]) fun handle offered => ?_
    rcases offers_before numbered offered with rfl | old | ⟨c, r, phase, phase', standing, mine, -⟩
    · trivial
    · exact h.served handle old
    · simp [idle c mine] at standing
  · obtain ⟨lands, others, all⟩ := jobs_of_standing standing
    have first := Workshop.Books.perm books (List.Subset.refl _) all.symm
    rw [advanced] at bound
    rcases (Workshop.books_advance ready tidy first bound).2 with unchanged | ⟨host, -, gains⟩
    · have same : (m.react e).session.workshop = m.session.workshop := by
        rw [advanced, unchanged]
      refine h.stay (by rw [same]) (by rw [same]) fun handle offered => ?_
      rcases offers_of_step numbered standing mine offered with rfl | old | now
      · trivial
      · exact h.served handle old
      · rw [unchanged] at now
        exact h.served handle (.client standing now)
    · rcases gains.tenants with ⟨same, made, null⟩ | ⟨names, more, made, own⟩
      · rw [← advanced] at same made
        refine h.stay same made fun handle offered => ?_
        rcases offers_of_step numbered standing mine offered with rfl | old | now
        · trivial
        · exact h.served handle old
        · rw [← now, null]
          trivial
      · rw [← advanced] at more made
        refine h.add more made fun handle offered => ?_
        rcases offers_of_step numbered standing mine offered with rfl | old | now
        · trivial
        · refine (h.served handle old).mono ?_
          rw [more]
          exact List.subset_append_left ..
        · rw [← now, own]
          exact ⟨names, host.bench.scratch, rfl, by simp [more]⟩

/-- **The instances after an event.** -/
theorem tenanted_react (h : m.Tenanted) {stranded : List Place} (books : m.Books stranded)
    (numbered : m.session.Numbered) (ready : m.session.workshop.Ready)
    (tidy : m.session.workshop.machine.tool.Tidy) (e : Event)
    (bound : (m.react e).session.workshop.machine.attempts.length ≤ UInt64.size) :
    (m.react e).Tenanted := by
  cases step : e.isStep with
  | true => exact h.step books numbered ready tidy step bound
  | false => exact h.other numbered step

/-- **Every handle is on an instance that is there**, at every moment. -/
theorem tenanted_after {w : Workshop} (furnished : w.Furnished) (tidy : w.machine.tool.Tidy)
    (events : List Event)
    (bound : ((first w).after events).session.workshop.machine.attempts.length ≤ UInt64.size) :
    ((first w).after events).Tenanted := by
  induction events using List.reverseRecOn with
  | nil =>
    have unlet : w.tenants = [] := by simp [Workshop.tenants, furnished.untouched.residents]
    refine ⟨by simp [first, unlet], by simp [first, unlet], fun handle offered => ?_⟩
    cases offered with
    | slot member => simp [first] at member
    | @client c r phase standing own =>
      cases c <;> simp [first, standing?, Session.task?] at standing
  | append_singleton events e ih =>
    have steady := steady_after furnished events
    have ready := steady.ready furnished.ready
    rw [after_append, after_cons, after_nil] at bound ⊢
    have earlier := Nat.le_trans (steady_react ready e).machine.recorded.length_le bound
    refine tenanted_react (ih earlier) (books_after furnished tidy events earlier)
      (numbered_after w events) ready ?_ e bound
    rw [steady.machine.tool]
    exact tidy

end Moment

end Plotter
