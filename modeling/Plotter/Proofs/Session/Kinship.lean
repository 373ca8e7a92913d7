import Plotter.Proofs.Naming
import Plotter.Proofs.Request.Instances
import Plotter.Proofs.Session.Attempts
import Plotter.Proofs.Session.Lineage

/-!
# Handles on one instance

Two handles are on one instance if they have one number. They then are of one unit, and copies of the
handle of one request; and it takes no more than either of these for two handles to be on one
instance. Three things are told apart by each other here: instances, units and requests.

Behind this is a pedigree of the instances (`Pedigree`): which request each name was taken for, and
under which name each instance was made. A request may take several names, for it may be tried again,
but makes one instance at most.

## What is proved

* `Workshop.yields`: what a step of a request comes to for names and instances.
* `Kindred.react`: every event keeps the pedigree right.
* `Moment.kinship_exact`: two handles are on one instance just in case their units are the same, and
  just in case they are of the same request.
-/

namespace Plotter

/-! ### Steps of requests -/

namespace Workshop

variable {w w' : Workshop} {r : Request} {host : Host}

/-- What a step of a request comes to for names and instances. -/
inductive Yields (w : Workshop) (phase : Phase) : Phase × Workshop → Prop
  /-- Nothing happens. -/
  | nothing : Yields w phase (phase, w)
  /-- The request fails. -/
  | failure {failure : Failure} {w' : Workshop} (before : phase.handle = .null)
      (quiet : w.Quiet w') (made : w'.made = w.made) : Yields w phase (.done (.failed failure), w')
  /-- The request takes the next names. -/
  | names {phase' : Phase} {w' : Workshop} (before : phase.handle = .null)
      (taken : w'.names = w.names.next.2)
      (counted : w'.machine.attempts.length = w.machine.attempts.length + 1)
      (made : w'.made = w.made) (null : phase'.handle = .null)
      (named : ∀ retried c, phase' = .compiling retried c → c.unit.names = w.names.next.1) :
      Yields w phase (phase', w')
  /-- The request makes an instance of the unit for which it waited. -/
  | made {retried : UInt32} {c : Compilation} {verdict : Verdict} {w' : Workshop}
      (waited : phase = .compiling retried c) (quiet : w.Quiet w') (made : w'.made = w.made + 1)
      (handle : (Phase.done verdict).handle = .compiled w.made c.unit.names.qualified) :
      Yields w phase (.done verdict, w')

theorem Makes.made_eq (h : Makes w w' none) : w'.made = w.made := by
  cases h
  assumption

/-- An attempt takes the next names, whether anything comes of it or not. -/
theorem yields_attempt (quiet : w.Quiet w') (made : w'.made = w.made)
    (found : w'.hosts[r.host]? = some host) {template : Template}
    (kept : host.templates.kept = some template) {phase : Phase} (before : phase.handle = .null)
    (retried : UInt32) : Yields w phase (w'.attempt r host retried) := by
  have next : w'.names.next = w.names.next := by rw [quiet.names]
  have called (unit : SourceUnit) : (host.bench.call w'.machine unit).2.attempts.length =
      w.machine.attempts.length + 1 := by
    rw [Bench.call_eq, List.length_cons, quiet.machine.attempts]
  obtain ⟨unmade, null⟩ := w'.makes_attempt r host retried
  have made' := unmade.made_eq.trans made
  rw [attempt_eq found kept] at made' null ⊢
  cases answer : (w'.commence r host template retried).compilation.response with
  | started course killed =>
    simp only [answer] at made' ⊢
    refine .names before (congrArg Prod.snd next) (called _) made' rfl fun retried' c same => ?_
    obtain ⟨-, rfl⟩ := Phase.compiling.inj same
    exact congrArg Prod.fst next
  | unstarted fault =>
    simp only [answer] at made' null ⊢
    have quiet' := (w'.commence r host template retried).begun.quiet_fail r
      (.toolchain (.unstartable host.bench.toolchain.path fault))
    refine .names before ?_ ?_ made' null fun retried' c same => ?_
    · exact quiet'.names.trans (congrArg Prod.snd next)
    · exact (congrArg List.length quiet'.machine.attempts).trans (called _)
    · simp at same

/-- **What a step of a request comes to.** -/
theorem yields (ready : w.Ready) (r : Request) (phase : Phase) :
    Yields w phase (w.advance r phase) := by
  have step := w.advances r phase
  generalize w.advance r phase = next at step ⊢
  cases step with
  | stuck halted => exact .nothing
  | @first host found =>
    obtain ⟨template, kept⟩ := ready host (List.mem_of_getElem? found)
    exact yields_attempt (.refl w) rfl found kept rfl 0
  | made found ended =>
    obtain ⟨handle, made⟩ := ended.handle
    exact .made rfl ended.quiet made handle
  | @again host retried c failure w' found ended =>
    obtain ⟨template, kept⟩ := ready host (List.mem_of_getElem? found)
    have quiet := ended.quiet_note (.retrying failure)
    have found' : (w'.note (.retrying failure)).hosts[r.host]? = some host := by
      rw [quiet.hosts]
      exact found
    exact yields_attempt quiet ended.makes_none.made_eq found' kept rfl _
  | failed found ended =>
    exact .failure rfl (ended.quiet_fail r _) (ended.makes_none.trans (makes_fail ..)).made_eq

end Workshop

/-! ### Pedigrees -/

/-- Where instances come from: the request that each name was taken for, by the serial numbers of
names, and the serial number under which each instance was made, by the numbers of instances. -/
structure Pedigree where
  takers : List Origin := []
  serials : List Nat := []

namespace Pedigree

/-- A name is taken for a request. -/
def take (p : Pedigree) (origin : Origin) : Pedigree := { p with takers := p.takers ++ [origin] }

/-- An instance is made under the name with a serial number. -/
def make (p : Pedigree) (serial : Nat) : Pedigree := { p with serials := p.serials ++ [serial] }

/-- The pedigree counts the names and the instances of a workshop, and no request has made two
instances. -/
structure Sound (names : NameSource) (p : Pedigree) (w : Workshop) : Prop where
  counted : w.machine.attempts.length = p.takers.length
  names : w.names = { names with issued := .ofNat p.takers.length }
  made : w.made = p.serials.length
  known : ∀ k ∈ p.serials, k < p.takers.length
  once : (p.serials.map fun k => p.takers[k]?).Nodup

/-- A request has a handle only on an instance that it made, and of that instance's unit. -/
def Gave (names : NameSource) (p : Pedigree) (origin : Origin) : Handle → Prop
  | .null => True
  | .compiled number unit => ∃ k, p.serials[number]? = some k ∧ p.takers[k]? = some origin ∧
      unit = (names.namesAt (.ofNat k)).qualified

/-- A request waits for a unit with a name that was taken for it, and as long as it has no handle
it has made no instance. -/
structure Fits (names : NameSource) (p : Pedigree) (origin : Origin) (phase : Phase) : Prop where
  waits : ∀ retried c, phase = .compiling retried c → ∃ k, p.takers[k]? = some origin ∧
    c.unit.names = names.namesAt (.ofNat k)
  fruitless : phase.handle = .null → ∀ k ∈ p.serials, p.takers[k]? ≠ some origin

/-- A pedigree that has become longer by what one request did. -/
structure Grows (p p' : Pedigree) (who : Origin → Prop) : Prop where
  takers : p.takers <+: p'.takers
  serials : p.serials <+: p'.serials
  added : ∀ k ∈ p'.serials, k ∈ p.serials ∨ ∃ origin, who origin ∧ p'.takers[k]? = some origin

variable {names : NameSource} {p p' : Pedigree} {w w' : Workshop} {origin : Origin} {k : Nat}
  {who : Origin → Prop}

theorem getElem?_of_extends {α : Type} {xs ys : List α} (h : xs <+: ys) {i : Nat} {x : α}
    (found : xs[i]? = some x) : ys[i]? = some x := by
  obtain ⟨zs, rfl⟩ := h
  rw [List.getElem?_append_left (List.getElem?_eq_some_iff.1 found).1]
  exact found

theorem Grows.refl (p : Pedigree) (who : Origin → Prop) : p.Grows p who :=
  ⟨List.prefix_rfl, List.prefix_rfl, fun _ => .inl⟩

theorem grows_take (p : Pedigree) (origin : Origin) (who : Origin → Prop) :
    p.Grows (p.take origin) who :=
  ⟨List.prefix_append .., List.prefix_rfl, fun _ => .inl⟩

theorem grows_make (taken : p.takers[k]? = some origin) (mine : who origin) :
    p.Grows (p.make k) who where
  takers := List.prefix_rfl
  serials := List.prefix_append ..
  added k' member := by
    rcases List.mem_append.1 member with old | new
    · exact .inl old
    · obtain rfl := List.mem_singleton.1 new
      exact .inr ⟨origin, mine, taken⟩

theorem Gave.mono {handle : Handle} (h : p.Gave names origin handle) (grows : p.Grows p' who) :
    p'.Gave names origin handle := by
  cases handle with
  | null => trivial
  | compiled number unit =>
    obtain ⟨k, made, taken, same⟩ := h
    exact ⟨k, getElem?_of_extends grows.serials made, getElem?_of_extends grows.takers taken, same⟩

/-- What a request did leaves the others where they are. -/
theorem Fits.mono {phase : Phase} (h : p.Fits names origin phase) (sound : p.Sound names w)
    (grows : p.Grows p' who) (other : ¬who origin) : p'.Fits names origin phase where
  waits retried c waiting := by
    obtain ⟨k, taken, same⟩ := h.waits retried c waiting
    exact ⟨k, getElem?_of_extends grows.takers taken, same⟩
  fruitless null k member := by
    rcases grows.added k member with old | ⟨origin', mine, taken⟩
    · obtain ⟨taker, there⟩ : ∃ taker, p.takers[k]? = some taker :=
        ⟨_, List.getElem?_eq_getElem (sound.known k old)⟩
      have before := h.fruitless null k old
      rw [getElem?_of_extends grows.takers there]
      rwa [there] at before
    · rw [taken]
      intro same
      obtain rfl := Option.some.inj same
      exact other mine

theorem Sound.quiet (h : p.Sound names w) (quiet : w.Quiet w') (made : w'.made = w.made) :
    p.Sound names w' where
  counted := (congrArg List.length quiet.machine.attempts).trans h.counted
  names := quiet.names.trans h.names
  made := made.trans h.made
  known := h.known
  once := h.once

theorem Sound.take (h : p.Sound names w) (origin : Origin) (taken : w'.names = w.names.next.2)
    (counted : w'.machine.attempts.length = w.machine.attempts.length + 1)
    (made : w'.made = w.made) : (p.take origin).Sound names w' where
  counted := by rw [counted, h.counted, Pedigree.take, List.length_append, List.length_singleton]
  names := by
    rw [taken, h.names, Pedigree.take, List.length_append, List.length_singleton]
    simp [NameSource.next]
  made := made.trans h.made
  known k member := by
    have below := h.known k member
    rw [Pedigree.take, List.length_append, List.length_singleton]
    omega
  once := by
    have same : (p.serials.map fun k => (p.take origin).takers[k]?) =
        p.serials.map fun k => p.takers[k]? :=
      List.map_congr_left fun k member => List.getElem?_append_left (h.known k member)
    exact same ▸ h.once

/-- A request for which a name was taken waits for a unit of that name, if it waits at all. -/
theorem Fits.take {phase phase' : Phase} (h : p.Fits names origin phase) (sound : p.Sound names w)
    (before : phase.handle = .null)
    (named : ∀ retried c, phase' = .compiling retried c → c.unit.names = w.names.next.1) :
    (p.take origin).Fits names origin phase' where
  waits retried c waiting := by
    refine ⟨p.takers.length, by simp [Pedigree.take], ?_⟩
    rw [named retried c waiting, sound.names]
    rfl
  fruitless _ k member := by
    have same : (p.take origin).takers[k]? = p.takers[k]? :=
      List.getElem?_append_left (sound.known k member)
    rw [same]
    exact h.fruitless before k member

theorem Sound.make (h : p.Sound names w) (taken : p.takers[k]? = some origin)
    (fruitless : ∀ k ∈ p.serials, p.takers[k]? ≠ some origin) (quiet : w.Quiet w')
    (made : w'.made = w.made + 1) : (p.make k).Sound names w' where
  counted := (congrArg List.length quiet.machine.attempts).trans h.counted
  names := quiet.names.trans h.names
  made := by rw [made, h.made, Pedigree.make, List.length_append, List.length_singleton]
  known k' member := by
    rcases List.mem_append.1 member with old | new
    · exact h.known k' old
    · obtain rfl := List.mem_singleton.1 new
      exact (List.getElem?_eq_some_iff.1 taken).1
  once := by
    simp only [Pedigree.make, List.map_append, List.map_cons, List.map_nil, List.nodup_append]
    refine ⟨h.once, by simp, ?_⟩
    intro taker old taker' new
    obtain ⟨k', member, rfl⟩ := List.mem_map.1 old
    rw [List.mem_singleton.1 new, taken]
    exact fruitless k' member

end Pedigree

/-! ### Kindred -/

/-- A pedigree is right at a moment of a session that began in a workshop. -/
structure Kindred (w : Workshop) (m : Moment) (l : Lineage) (p : Pedigree) : Prop where
  sound : p.Sound w.names m.session.workshop
  past : ∀ origin ∈ p.takers, l.Made m origin
  fits : ∀ c r phase, m.standing? c = some (r, phase) → p.Fits w.names (l.request c) phase
  gave : ∀ x, m.held x = .null ∨
    ∃ origin, l.descent x = some origin ∧ p.Gave w.names origin (m.held x)

namespace Kindred

variable {w : Workshop} {m : Moment} {l : Lineage} {p p' : Pedigree}

theorem first (furnished : w.Furnished) : Kindred w (.first w) {} {} where
  sound :=
    { counted := congrArg List.length furnished.untouched.attempts
      names := by
        have unissued := furnished.untouched.issued
        simp [Moment.first, ← unissued]
      made := furnished.made
      known := by simp
      once := by simp }
  past := by simp
  fits c r phase standing := by
    cases c <;> simp [Moment.first, Moment.standing?, Session.task?] at standing
  gave x := by
    refine .inl ?_
    cases x with
    | slot name => simp [Moment.held, Moment.first, Session.slot]
    | client c => cases c <;> simp [Moment.held, Moment.first, Moment.standing?, Session.task?]

/-- A pedigree stays right if it grows by what a step of a request does, and in no other event. -/
theorem onward (h : Kindred w m l p) (numbered : m.session.Numbered) (e : Event)
    (sound : p'.Sound w.names (m.react e).session.workshop)
    (grows : p.Grows p' fun origin => ∃ c, e.isStepOf c = true ∧ origin = l.request c)
    (past : ∀ origin ∈ p'.takers, l.Made m origin)
    (own : ∀ c r phase phase', e.isStepOf c = true → m.standing? c = some (r, phase) →
      m.session.workshop.advance r phase = (phase', (m.react e).session.workshop) →
      p'.Fits w.names (l.request c) phase' ∧ p'.Gave w.names (l.request c) phase'.handle) :
    Kindred w (m.react e) (l.react m e) p' where
  sound := sound
  past origin member := (past origin member).react e
  fits c r phase' now := by
    rcases l.standing_before numbered now with ⟨rfl, unmade⟩ | ⟨phase, before, same, step⟩
    · -- Nothing was taken for a request that was not made.
      refine ⟨fun _ _ waiting => by simp at waiting, fun _ k _ taken => unmade ?_⟩
      exact past _ (List.mem_of_getElem? taken)
    · rw [same]
      split at step
      · rename_i mine
        exact (own c r phase phase' mine before step).1
      · rename_i other
        subst step
        refine (h.fits c r phase' before).mono h.sound grows ?_
        rintro ⟨c', mine, same⟩
        obtain rfl := l.request_injective same
        exact other mine
  gave x := by
    rcases l.held_before numbered e x with null | ⟨y, held, same⟩ |
      ⟨c, r, phase, phase', rfl, mine, before, step, held⟩
    · exact .inl null
    · rw [← held, ← same]
      refine (h.gave y).imp_right ?_
      rintro ⟨origin, descends, gave⟩
      exact ⟨origin, descends, gave.mono grows⟩
    · rw [held]
      have step' : e.isStep = true := by
        cases e <;> cases c <;> simp [Event.isStepOf, Event.isStep] at mine ⊢
      rw [Lineage.react_of_isStep step']
      exact .inr ⟨_, rfl, (own c r phase phase' mine before step).2⟩

/-- What a client has is what its request gave. -/
theorem gave_client (h : Kindred w m l p) {c : Client} {r : Request} {phase : Phase}
    (standing : m.standing? c = some (r, phase)) : p.Gave w.names (l.request c) phase.handle := by
  have held : m.held (.client c) = phase.handle := by simp only [Moment.held, standing]
  rcases h.gave (.client c) with null | ⟨origin, descends, gave⟩
  · rw [← held, null]
    trivial
  · obtain rfl := Option.some.inj descends
    rwa [held] at gave

/-- A step of a client's request keeps the pedigree right. -/
theorem step (h : Kindred w m l p) (numbered : m.session.Numbered)
    (ready : m.session.workshop.Ready) {e : Event} {c : Client} {r : Request} {phase : Phase}
    (standing : m.standing? c = some (r, phase)) (mine : e.isStepOf c = true)
    (advanced : (m.react e).session.workshop = (m.session.workshop.advance r phase).2) :
    ∃ p', Kindred w (m.react e) (l.react m e) p' := by
  -- It is enough to say what the step makes of this one request.
  have onward {p' : Pedigree}
      (sound : p'.Sound w.names (m.session.workshop.advance r phase).2)
      (grows : p.Grows p' fun origin => ∃ c, e.isStepOf c = true ∧ origin = l.request c)
      (past : ∀ origin ∈ p'.takers, l.Made m origin)
      (fits : p'.Fits w.names (l.request c) (m.session.workshop.advance r phase).1)
      (gave : p'.Gave w.names (l.request c) (m.session.workshop.advance r phase).1.handle) :
      ∃ p', Kindred w (m.react e) (l.react m e) p' := by
    refine ⟨p', h.onward numbered e (advanced ▸ sound) grows past ?_⟩
    intro c' r' phase₀ phase' mine' standing' step
    obtain rfl := Moment.client_unique mine mine'
    rw [standing, Option.some.injEq, Prod.mk.injEq] at standing'
    obtain ⟨rfl, rfl⟩ := standing'
    rw [step] at fits gave
    exact ⟨fits, gave⟩
  have fits := h.fits c r phase standing
  have yields := m.session.workshop.yields ready r phase
  generalize m.session.workshop.advance r phase = next at yields onward
  cases yields with
  | nothing => exact onward h.sound (.refl p _) h.past fits (h.gave_client standing)
  | failure before quiet made =>
    refine onward (h.sound.quiet quiet made) (.refl p _) h.past ⟨?_, ?_⟩ trivial
    · exact fun _ _ waiting => by simp at waiting
    · exact fun _ => fits.fruitless before
  | names before taken counted made null named =>
    refine onward (h.sound.take _ taken counted made) (p.grows_take ..) ?_
      (fits.take h.sound before named) ?_
    · intro origin member
      rcases List.mem_append.1 member with old | new
      · exact h.past origin old
      · rw [List.mem_singleton.1 new]
        exact Lineage.made_request numbered standing
    · rw [null]
      trivial
  | made waited quiet made handle =>
    have before : phase.handle = .null := by rw [waited]; rfl
    obtain ⟨k, taken, named⟩ := fits.waits _ _ waited
    refine onward (h.sound.make taken (fits.fruitless before) quiet made)
      (Pedigree.grows_make taken ⟨c, mine, rfl⟩) h.past ⟨?_, ?_⟩ ?_
    · exact fun _ _ waiting => by simp at waiting
    · intro null
      rw [handle] at null
      simp at null
    · rw [handle, h.sound.made, named]
      exact ⟨k, by simp [Pedigree.make], taken, rfl⟩

/-- **Every event keeps the pedigree right.** -/
theorem react (h : Kindred w m l p) (numbered : m.session.Numbered)
    (ready : m.session.workshop.Ready) (e : Event) :
    ∃ p', Kindred w (m.react e) (l.react m e) p' := by
  cases step : e.isStep with
  | false =>
    refine ⟨p, h.onward numbered e ?_ (.refl p _) h.past fun c r phase phase' mine => ?_⟩
    · exact h.sound.quiet (m.quiet_react step) (m.tenants_react step).1
    · rw [Event.isStep_of_isStepOf mine] at step
      cases step
  | true =>
    rcases m.workshop_of_step step with ⟨idle, same⟩ | ⟨c, r, phase, standing, mine, advanced⟩
    · refine ⟨p, h.onward numbered e (same ▸ h.sound) (.refl p _) h.past ?_⟩
      intro c r phase phase' mine standing
      simp [idle c mine] at standing
    · exact h.step numbered ready standing mine advanced

/-- There is a pedigree at every moment. -/
theorem after (furnished : w.Furnished) (events : List Event) :
    ∃ p, Kindred w ((Moment.first w).after events)
      (({} : Lineage).after (.first w) events) p := by
  induction events using List.reverseRecOn with
  | nil => exact ⟨{}, .first furnished⟩
  | append_singleton events e ih =>
    obtain ⟨p, h⟩ := ih
    rw [Moment.after_append, Lineage.after_append]
    exact h.react (Moment.numbered_after w events)
      ((Moment.steady_after furnished events).ready furnished.ready) e

/-- What is known of a handle that is on an instance. -/
theorem compiled (h : Kindred w m l p) {x : Holder} {number : Nat} {unit : String}
    (held : m.held x = .compiled number unit) : ∃ k origin, l.descent x = some origin ∧
      p.serials[number]? = some k ∧ p.takers[k]? = some origin ∧
        unit = (w.names.namesAt (.ofNat k)).qualified := by
  rcases h.gave x with null | ⟨origin, descends, gave⟩
  · rw [held] at null
    simp at null
  · rw [held] at gave
    obtain ⟨k, made, taken, same⟩ := gave
    exact ⟨k, origin, descends, made, taken, same⟩

/-- Instances of one request are one instance. -/
theorem number_eq (h : Kindred w m l p) {number number' k k' : Nat}
    (made : p.serials[number]? = some k) (made' : p.serials[number']? = some k')
    (same : p.takers[k]? = p.takers[k']?) : number = number' := by
  have below : number < (p.serials.map fun k => p.takers[k]?).length := by
    rw [List.length_map]
    exact (List.getElem?_eq_some_iff.1 made).1
  refine (List.getElem?_inj below h.sound.once).1 ?_
  rw [List.getElem?_map, List.getElem?_map, made, made', Option.map_some, Option.map_some, same]

/-- Units of one name have one serial number. -/
theorem serial_eq (h : Kindred w m l p)
    (bound : m.session.workshop.machine.attempts.length ≤ UInt64.size) {k k' : Nat}
    (known : k < p.takers.length) (known' : k' < p.takers.length)
    (same : (w.names.namesAt (.ofNat k)).qualified = (w.names.namesAt (.ofNat k')).qualified) :
    k = k' := by
  rw [h.sound.counted] at bound
  have serials := congrArg UInt64.toNat (w.names.qualifiedAt_injective same)
  rwa [UInt64.toNat_ofNat_of_lt' (by omega), UInt64.toNat_ofNat_of_lt' (by omega)] at serials

/-- **Instances, units and requests are told apart by each other.** -/
theorem told_apart (h : Kindred w m l p)
    (bound : m.session.workshop.machine.attempts.length ≤ UInt64.size) {x y : Holder}
    {number number' : Nat} {unit unit' : String} (held : m.held x = .compiled number unit)
    (held' : m.held y = .compiled number' unit') :
    (number = number' ↔ unit = unit') ∧
      (number = number' ↔
        ∃ origin, l.descent x = some origin ∧ l.descent y = some origin) := by
  obtain ⟨k, origin, descends, made, taken, rfl⟩ := h.compiled held
  obtain ⟨k', origin', descends', made', taken', rfl⟩ := h.compiled held'
  have serials (same : number = number') : k = k' := by
    rw [same, made'] at made
    exact (Option.some.inj made).symm
  refine ⟨⟨fun same => by rw [serials same], fun same => ?_⟩, fun same => ?_, ?_⟩
  · have known := (List.getElem?_eq_some_iff.1 taken).1
    have known' := (List.getElem?_eq_some_iff.1 taken').1
    exact h.number_eq made made' (by rw [h.serial_eq bound known known' same])
  · rw [serials same, taken'] at taken
    obtain rfl := Option.some.inj taken
    exact ⟨_, descends, descends'⟩
  · rintro ⟨origin'', own, own'⟩
    obtain rfl := Option.some.inj (descends.symm.trans own)
    obtain rfl := Option.some.inj (descends'.symm.trans own')
    exact h.number_eq made made' (taken.trans taken'.symm)

end Kindred

/-! ### One instance -/

namespace Moment

/-- What it takes for the handles of two holders to be on one instance. -/
structure Kinship (m : Moment) (l : Lineage) : Prop where
  /-- They are handles on units of one name. -/
  units : ∀ x y, (m.held x).sameInstance (m.held y) = true ↔
    m.held x ≠ .null ∧ m.held y ≠ .null ∧ (m.held x).unit? = (m.held y).unit?
  /-- They are copies of the handle of one request. -/
  requests : ∀ x y, (m.held x).sameInstance (m.held y) = true ↔
    m.held x ≠ .null ∧ m.held y ≠ .null ∧
      ∃ origin, l.descent x = some origin ∧ l.descent y = some origin
  symm : ∀ x y, (m.held x).sameInstance (m.held y) = (m.held y).sameInstance (m.held x)
  trans : ∀ x y z, (m.held x).sameInstance (m.held y) = true →
    (m.held y).sameInstance (m.held z) = true → (m.held x).sameInstance (m.held z) = true
  /-- Handles of different requests are on different instances. -/
  apart : ∀ x y origin origin', l.descent x = some origin → l.descent y = some origin' →
    origin ≠ origin' → (m.held x).sameInstance (m.held y) = false
  /-- The null handle is on none. -/
  null : ∀ x y, m.held x = .null → (m.held x).sameInstance (m.held y) = false ∧
    (m.held y).sameInstance (m.held x) = false

/-- Handles on instances that are told apart by their units and by their requests. -/
theorem kinship_of {m : Moment} {l : Lineage}
    (told : ∀ x y number number' unit unit', m.held x = .compiled number unit →
      m.held y = .compiled number' unit' → (number = number' ↔ unit = unit') ∧
        (number = number' ↔
          ∃ origin, l.descent x = some origin ∧ l.descent y = some origin)) : m.Kinship l := by
  have requests (x y : Holder) : (m.held x).sameInstance (m.held y) = true ↔
      m.held x ≠ .null ∧ m.held y ≠ .null ∧
        ∃ origin, l.descent x = some origin ∧ l.descent y = some origin := by
    have own := told x y
    cases held : m.held x with
    | null => simp [Handle.sameInstance]
    | compiled number unit =>
      cases held' : m.held y with
      | null => simp [Handle.sameInstance]
      | compiled number' unit' =>
        simpa [Handle.sameInstance] using (own _ _ _ _ held held').2
  refine ⟨fun x y => ?_, requests, fun x y => ?_, fun x y z => ?_, ?_, fun x y null => ?_⟩
  · have own := told x y
    cases held : m.held x with
    | null => simp [Handle.sameInstance]
    | compiled number unit =>
      cases held' : m.held y with
      | null => simp [Handle.sameInstance]
      | compiled number' unit' =>
        simpa [Handle.sameInstance, Handle.unit?] using (own _ _ _ _ held held').1
  · cases m.held x <;> cases m.held y <;> simp [Handle.sameInstance, Bool.beq_comm]
  · cases m.held x <;> cases m.held y <;> cases m.held z <;> simp [Handle.sameInstance]
    rintro rfl rfl
    rfl
  · intro x y origin origin' descends descends' different
    rw [Bool.eq_false_iff]
    intro same
    obtain ⟨-, -, origin'', own, own'⟩ := (requests x y).1 same
    rw [descends] at own
    rw [descends'] at own'
    exact different ((Option.some.inj own).trans (Option.some.inj own').symm)
  · rw [null]
    cases m.held y <;> exact ⟨rfl, rfl⟩

/-- **When two handles are on one instance.** Whatever happens in a session with any number of hosts
that take their names from one source, and as long as no serial number is taken twice, two handles
are on one instance just in case both are on instances of units with one name, and just in case both
are on instances and copies of the handle of one request. So being on one instance is symmetric and
transitive, and neither handles of different requests nor the null handle are on one instance with
any. -/
theorem kinship_exact {w : Workshop} (furnished : w.Furnished) (events : List Event)
    (bound : ((first w).after events).session.workshop.machine.attempts.length ≤ UInt64.size) :
    ((first w).after events).Kinship (({} : Lineage).after (first w) events) := by
  obtain ⟨p, h⟩ := Kindred.after furnished events
  exact kinship_of fun x y _ _ _ _ held held' => h.told_apart bound held held'

/-- Two requests for one expression, and a copy of the handle of the first. -/
theorem kinship_of_copies :
    let events : List Event := [.ask ⟨0, "x"⟩, .pursue, .pursue, .pursue, .answer (some "f"),
      .copy "f" "g", .submit "x" "later", .proceed 0, .proceed 0, .proceed 0]
    ∃ m, (first (.bare flaky 3)).after events = m ∧
      m.Kinship (({} : Lineage).after (first (.bare flaky 3)) events) ∧
      (m.held (.slot "f")).sameInstance (m.held (.slot "g")) = true ∧
      (m.held (.client (.task 0))).isNull = false ∧
      (m.held (.slot "f")).sameInstance (m.held (.client (.task 0))) = false := by
  intro events
  have bound : ((first (.bare flaky 3)).after events).session.workshop.machine.attempts.length ≤
      UInt64.size := by decide +kernel
  refine ⟨_, rfl, kinship_exact (Workshop.furnished_bare flaky 3) events bound, ?_, ?_, ?_⟩
  · decide +kernel
  · decide +kernel
  · decide +kernel

end Moment

end Plotter
