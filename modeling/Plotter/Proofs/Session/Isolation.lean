import Plotter.Proofs.Request.Instances
import Plotter.Proofs.Session.Tenants

/-!
# Compiled functions do not influence each other

A session deals with instances in four ways: a step of a request may make one, a call reaches the one
that its handle is on, what nobody has a handle on is let go of, and everything else leaves them
alone. What the calls in a session answered is on `Moment.served`, by the numbers of instances, and
`Moment.births` are the instances as they were when they were made.

## What is proved

* `Moment.dealings_after`: at every moment every handle is on an instance of its unit, and the session
  has dealt with instances as is said here.
* `Moment.isolation_exact`: the values that an instance answers are those of its own library for its
  own arguments, in every session and between any two.
-/

namespace Plotter

namespace Workshop

/-- The instance that was made from one workshop to the next, if one was. -/
def newborn? (w w' : Workshop) : Option Instance :=
  if w'.made = w.made then none else w'.residents.getLast?.map Resident.body

theorem newborn?_of_makes {w w' : Workshop} {born : Option Instance} (h : Makes w w' born) :
    w.newborn? w' = born := by
  cases h with
  | nothing _ made => exact if_pos made
  | one _ _ residents made =>
    have counted : w'.made ≠ w.made := by omega
    rw [newborn?, if_neg counted, residents, List.getLast?_concat]
    rfl

theorem exists_resident? {w : Workshop} {r : Resident} (member : r ∈ w.residents) :
    ∃ r', w.resident? r.number = some r' := by
  rw [resident?, ← Option.isSome_iff_exists, List.find?_isSome]
  exact ⟨r, member, by simp⟩

end Workshop

namespace Moment

/-! ### What a session does to instances -/

/-- The call that an event answers, if it is a call of an instance. -/
def serves (m : Moment) : Event → List Served
  | .call slot x =>
    match m.session.slot slot with
    | .null => []
    | .compiled number unit =>
      [⟨number, x, (m.session.workshop.call (.compiled number unit) x).1⟩]
  | _ => []

/-- The calls that were answered in some events, in order. -/
def served : Moment → List Event → List Served
  | _, [] => []
  | m, e :: es => m.serves e ++ served (m.react e) es

/-- The instances that were made in some events, as they were then, in order. -/
def births : Moment → List Event → List Instance
  | _, [] => []
  | m, e :: es =>
    (m.session.workshop.newborn? (m.react e).session.workshop).toList ++ births (m.react e) es

theorem served_append (m : Moment) (es fs : List Event) :
    served m (es ++ fs) = served m es ++ served (m.after es) fs := by
  induction es generalizing m with
  | nil => rfl
  | cons e es ih => simp only [List.cons_append, served, after_cons, ih, List.append_assoc]

theorem births_append (m : Moment) (es fs : List Event) :
    births m (es ++ fs) = births m es ++ births (m.after es) fs := by
  induction es generalizing m with
  | nil => rfl
  | cons e es ih => simp only [List.cons_append, births, after_cons, ih, List.append_assoc]

/-! ### Handles are backed -/

/-- Every handle that the user has, or has coming, is on an instance of its unit. -/
def Backed (m : Moment) : Prop :=
  ∀ number unit, m.Offers (.compiled number unit) →
    ∃ r ∈ m.session.workshop.residents, r.number = number ∧ r.body.unit = unit

variable {m : Moment} {w : Workshop}

/-- Where no instance is let go of, handles need only be on those that were there. -/
theorem Backed.stay (h : m.Backed) {m' : Moment}
    (residents : ∀ r ∈ m.session.workshop.residents,
      ∃ r' ∈ m'.session.workshop.residents, r'.number = r.number ∧ r'.body.unit = r.body.unit)
    (offers : ∀ number unit, m'.Offers (.compiled number unit) →
      m.Offers (.compiled number unit) ∨
        ∃ r ∈ m'.session.workshop.residents, r.number = number ∧ r.body.unit = unit) :
    m'.Backed := by
  intro number unit offered
  rcases offers number unit offered with old | new
  · obtain ⟨r, member, own, same⟩ := h number unit old
    obtain ⟨r', member', own', same'⟩ := residents r member
    exact ⟨r', member', own'.trans own, same'.trans same⟩
  · exact new

/-- A handle that is there after an event other than a step of a request was there before it. -/
theorem offers_of_other (numbered : m.session.Numbered) {e : Event} (other : e.isStep = false)
    {number : Nat} {unit : String} (offered : (m.react e).Offers (.compiled number unit)) :
    m.Offers (.compiled number unit) := by
  rcases offers_before numbered offered with null | old | ⟨c, r, phase, phase', -, mine, -, -⟩
  · simp at null
  · exact old
  · rw [Event.isStep_of_isStepOf mine] at other
    cases other

theorem Backed.call (h : m.Backed) (numbered : m.session.Numbered)
    (distinct : (m.session.workshop.residents.map Resident.number).Nodup) (slot : String)
    (x : Float) : (m.react (.call slot x)).Backed := by
  refine h.stay (fun r member => ?_) fun number unit offered =>
    .inl (offers_of_other numbered rfl offered)
  simp only [react]
  cases m.session.slot slot with
  | null => exact ⟨r, member, rfl, rfl⟩
  | compiled number unit =>
    simp only [Workshop.call]
    split
    · exact ⟨r, member, rfl, rfl⟩
    · rename_i called found
      refine ⟨_, List.mem_map_of_mem member, ?_⟩
      split
      · rename_i own
        have among : called ∈ m.session.workshop.residents := List.mem_of_find?_eq_some found
        have number : called.number = number := by simpa using List.find?_some found
        obtain rfl : r = called :=
          List.inj_on_of_nodup_map distinct member among (own.trans number.symm)
        exact ⟨rfl, rfl⟩
      · exact ⟨rfl, rfl⟩

/-- What is let go of is not needed: a handle that the user has keeps its instance. -/
theorem Backed.reclaim (h : m.Backed)
    (offers : ∀ number unit, Offers ⟨m.session.reclaim, none⟩ (.compiled number unit) →
      m.Offers (.compiled number unit)) : Backed ⟨m.session.reclaim, none⟩ := by
  intro number unit offered
  obtain ⟨r, member, rfl, rfl⟩ := h number unit (offers number unit offered)
  have held : m.session.dropTasks.uses r.number = true :=
    List.any_eq_true.2 ⟨_, mem_handles_of_offers rfl offered, by simp [Handle.number?]⟩
  have fewer : m.session.reclaim.workshop.residents =
      m.session.workshop.residents.filter fun r => m.session.dropTasks.uses r.number :=
    congrArg Prod.fst (List.partition_eq_filter_filter ..)
  refine ⟨r, ?_, rfl, rfl⟩
  dsimp only
  rw [fewer]
  exact List.mem_filter.2 ⟨member, held⟩

/-- A step of a request takes no instance away, and its handle is on the one that it made. -/
theorem Backed.step (h : m.Backed) (numbered : m.session.Numbered) {e : Event}
    (step : e.isStep = true) : (m.react e).Backed := by
  rcases m.workshop_of_step step with ⟨idle, same⟩ | ⟨c, r, phase, standing, mine, advanced⟩
  · refine h.stay (fun r member => ⟨r, same ▸ member, rfl, rfl⟩) fun number unit offered => ?_
    rcases offers_before numbered offered with null | old | ⟨c, r, phase, phase', standing, mine, -⟩
    · simp at null
    · exact .inl old
    · simp [idle c mine] at standing
  · rcases m.session.workshop.advance_makes r phase with unchanged | ⟨born, makes, handle⟩
    · have same : (m.react e).session.workshop = m.session.workshop := by
        rw [advanced, unchanged]
      refine h.stay (fun r member => ⟨r, same ▸ member, rfl, rfl⟩) fun number unit offered => ?_
      rcases offers_of_step numbered standing mine offered with null | old | now
      · simp at null
      · exact .inl old
      · rw [unchanged] at now
        exact .inl (.client standing now)
    · rw [← advanced] at makes
      cases makes with
      | nothing residents made =>
        refine h.stay (fun r member => ⟨r, residents ▸ member, rfl, rfl⟩)
          fun number unit offered => ?_
        rcases offers_of_step numbered standing mine offered with null | old | now
        · simp at null
        · exact .inl old
        · simp [handle, Workshop.handleOn] at now
      | @one scratch file body capable unused residents made =>
        refine h.stay (fun r member => ⟨r, ?_, rfl, rfl⟩) fun number unit offered => ?_
        · rw [residents]
          exact List.mem_append_left _ member
        · rcases offers_of_step numbered standing mine offered with null | old | now
          · simp at null
          · exact .inl old
          · simp only [handle, Workshop.handleOn, Handle.compiled.injEq] at now
            obtain ⟨rfl, rfl⟩ := now
            refine .inr ⟨⟨_, scratch, file, body⟩, ?_, rfl, rfl⟩
            rw [residents]
            exact List.mem_append_right _ (List.mem_singleton_self _)

/-- **Handles stay backed**, whatever happens. -/
theorem Backed.react (h : m.Backed) (numbered : m.session.Numbered)
    (distinct : (m.session.workshop.residents.map Resident.number).Nodup) (e : Event) :
    (m.react e).Backed := by
  cases step : e.isStep with
  | true => exact h.step numbered step
  | false =>
    by_cases called : ∃ slot x, e = .call slot x
    · obtain ⟨slot, x, rfl⟩ := called
      exact h.call numbered distinct slot x
    · have offers (number : Nat) (unit : String) :
          (m.react e).Offers (.compiled number unit) → m.Offers (.compiled number unit) :=
        offers_of_other numbered step
      obtain ⟨-, same | reclaimed⟩ :=
        m.residents_react step fun slot x call => called ⟨slot, x, call⟩
      · exact h.stay (fun r member => ⟨r, same ▸ member, rfl, rfl⟩)
          fun number unit offered => .inl (offers number unit offered)
      · rw [reclaimed] at offers ⊢
        exact h.reclaim offers

/-! ### A session deals with instances -/

theorem serves_of_uncalled {e : Event} (uncalled : ∀ slot x, e ≠ .call slot x) :
    m.serves e = [] := by
  cases e with
  | call slot x => exact absurd rfl (uncalled slot x)
  | _ => rfl

/-- A call is answered by the instance behind the slot, if there is one. -/
theorem dealings_call {births : List Instance} {log : List Served}
    (h : w.Dealings births log m.session.workshop) (backed : m.Backed) (slot : String) (x : Float) :
    w.Dealings births (log ++ m.serves (.call slot x)) (m.react (.call slot x)).session.workshop := by
  simp only [Moment.react, serves]
  rcases m.offers_of_slot slot with null | offered
  · rw [null, List.append_nil]
    exact h
  · cases handle : m.session.slot slot with
    | null =>
      rw [List.append_nil]
      exact h
    | compiled number unit =>
      obtain ⟨r, member, rfl, -⟩ := backed number unit (handle ▸ offered)
      obtain ⟨r', there⟩ := Workshop.exists_resident? member
      exact h.call there x

/-- A step of a request makes one instance or none. -/
theorem makes_of_step {e : Event} (step : e.isStep = true) :
    ∃ born, m.session.workshop.Makes (m.react e).session.workshop born := by
  rcases m.workshop_of_step step with ⟨-, same⟩ | ⟨c, r, phase, -, -, advanced⟩
  · exact ⟨none, .nothing (by rw [same]) (by rw [same])⟩
  · rw [advanced]
    rcases m.session.workshop.advance_makes r phase with unchanged | ⟨born, makes, -⟩
    · exact ⟨none, .nothing (by rw [unchanged]) (by rw [unchanged])⟩
    · exact ⟨born, makes⟩

/-- **What an event does to instances.** -/
theorem dealings_react {births : List Instance} {log : List Served}
    (h : w.Dealings births log m.session.workshop) (backed : m.Backed) (e : Event) :
    w.Dealings
      (births ++ (m.session.workshop.newborn? (m.react e).session.workshop).toList)
      (log ++ m.serves e) (m.react e).session.workshop := by
  by_cases called : ∃ slot x, e = .call slot x
  · obtain ⟨slot, x, rfl⟩ := called
    have made := (m.session.workshop.tenants_call (m.session.slot slot) x).2
    have unborn : m.session.workshop.newborn? (m.react (.call slot x)).session.workshop = none :=
      if_pos made
    rw [unborn, Option.toList_none, List.append_nil]
    exact dealings_call h backed slot x
  have uncalled (slot : String) (x : Float) (call : e = .call slot x) : False :=
    called ⟨slot, x, call⟩
  have making {born : Option Instance}
      (makes : m.session.workshop.Makes (m.react e).session.workshop born) :
      w.Dealings
        (births ++ (m.session.workshop.newborn? (m.react e).session.workshop).toList)
        (log ++ m.serves e) (m.react e).session.workshop := by
    rw [Workshop.newborn?_of_makes makes, serves_of_uncalled uncalled, List.append_nil]
    exact h.make makes
  cases step : e.isStep with
  | true =>
    obtain ⟨born, makes⟩ := makes_of_step step
    exact making makes
  | false =>
    obtain ⟨made, same | reclaimed⟩ := m.residents_react step uncalled
    · exact making (.nothing same made)
    · have unborn : m.session.workshop.newborn? (m.react e).session.workshop = none :=
        if_pos made
      rw [unborn, serves_of_uncalled uncalled, Option.toList_none, List.append_nil,
        List.append_nil, reclaimed]
      have closed : Workshop.Makes (m.session.workshop.release m.session.dropTasks.uses)
          m.session.reclaim.workshop none := .nothing rfl rfl
      have released := (h.release m.session.dropTasks.uses).make closed
      rwa [Option.toList_none, List.append_nil] at released

/-- **A session deals with instances**, and every handle is on one that is there. -/
theorem dealings_after (furnished : w.Furnished) (events : List Event) :
    w.Dealings (births (first w) events) (served (first w) events)
        ((first w).after events).session.workshop ∧
      ((first w).after events).Backed := by
  induction events using List.reverseRecOn with
  | nil =>
    refine ⟨.start, fun number unit offered => ?_⟩
    cases offered with
    | slot member => simp [first] at member
    | @client c r phase standing own =>
      cases c <;> simp [first, standing?, Session.task?] at standing
  | append_singleton events e ih =>
    obtain ⟨dealings, backed⟩ := ih
    have numbered := numbered_after w events
    have isolated := dealings.isolated furnished.untouched.residents furnished.made
    rw [births_append, served_append, after_append, after_cons, after_nil]
    refine ⟨?_, backed.react numbered isolated.distinct e⟩
    have further := dealings_react dealings backed e
    simpa only [births, served, List.append_nil] using further

/-! ### What the user is answered -/

/-- Calling the handle in a slot with several arguments is one call after the other, and what is
answered is what is on the log. -/
theorem served_callAll (s : Session) (awaited : Option (Request × Phase)) {slot unit : String}
    {number : Nat} (handle : s.slot slot = .compiled number unit) (xs : List Float) :
    served ⟨s, awaited⟩ (xs.map (.call slot)) =
        (xs.zip (s.workshop.callAll (s.slot slot) xs).1).map (fun p => ⟨number, p.1, p.2⟩) ∧
      (⟨s, awaited⟩ : Moment).after (xs.map (.call slot)) =
        ⟨{ s with workshop := (s.workshop.callAll (s.slot slot) xs).2 }, awaited⟩ := by
  induction xs generalizing s with
  | nil => exact ⟨rfl, rfl⟩
  | cons x xs ih =>
    obtain ⟨answered, led⟩ := ih { s with workshop := (s.workshop.call (s.slot slot) x).2 } handle
    have one : serves ⟨s, awaited⟩ (.call slot x) =
        [⟨number, x, (s.workshop.call (s.slot slot) x).1⟩] := by
      simp only [serves, handle]
    rw [Workshop.callAll_cons, List.map_cons, after_cons, served, one, List.zip_cons_cons,
      List.map_cons, List.singleton_append]
    exact ⟨congrArg _ answered, led⟩

/-- What one instance answers to the user, all at once or as samples. -/
structure Answers (s : Session) (slot : String) (number : Nat) : Prop where
  call : ∀ xs ys s', s.act (.call slot xs) = (.values ys, s') →
    served ⟨s, none⟩ (xs.map (.call slot)) = (xs.zip ys).map (fun p => ⟨number, p.1, p.2⟩) ∧
      (⟨s, none⟩ : Moment).after (xs.map (.call slot)) = ⟨s', none⟩
  sample : ∀ domain samples s', s.act (.sample slot domain) = (.samples samples, s') →
    served ⟨s, none⟩ (domain.points.map (.call slot)) =
        samples.map (fun p => ⟨number, p.x, p.y⟩) ∧
      (⟨s, none⟩ : Moment).after (domain.points.map (.call slot)) = ⟨s', none⟩

theorem answers_of_slot {s : Session} {slot unit : String} {number : Nat}
    (handle : s.slot slot = .compiled number unit) : Answers s slot number where
  call := by
    intro xs ys s' acted
    obtain ⟨answered, led⟩ := served_callAll s none handle xs
    simp only [Session.act, Prod.mk.injEq, Answer.values.injEq] at acted
    obtain ⟨rfl, rfl⟩ := acted
    exact ⟨answered, led⟩
  sample := by
    intro domain samples s' acted
    obtain ⟨answered, led⟩ := served_callAll s none handle domain.points
    simp only [Session.act, Session.sample, Prod.mk.injEq, Answer.samples.injEq] at acted
    obtain ⟨rfl, rfl⟩ := acted
    refine ⟨?_, led⟩
    rw [answered, List.map_map]
    rfl

/-- **Compiled functions do not influence each other.** A session is a dealing with instances, and
in every dealing, in which also several instances may be made of one loaded unit, each instance
answers what its own library answers to the arguments that it was given itself. So in any two
dealings, instances of one library that are given the same arguments answer the same, whatever else
happens in either. What the user is answered through any slot is what the instance behind the slot
answers. -/
theorem isolation_exact (furnished : w.Furnished) :
    (∀ events,
      w.Dealings (births (first w) events) (served (first w) events)
        ((first w).after events).session.workshop) ∧
    (∀ births log w', w.Dealings births log w' →
      w'.Isolated births log ∧
        ∀ bench names (built : BuiltUnit) name path left,
          LoadedUnit.load name path left = .ok built.loaded →
            w.Dealings (births ++ built.loaded.instantiate.toOption.toList) log
              (w'.instantiate bench names built).2) ∧
    (∀ v : Workshop, v.Furnished → ∀ births log w' births' log' v', w.Dealings births log w' →
      v.Dealings births' log' v' → ∀ n n' i i', births[n]? = some i → births'[n']? = some i' →
        i.library = i'.library → argumentsOf n log = argumentsOf n' log' →
          valuesOf n log = valuesOf n' log') ∧
    ∀ s slot number unit, s.slot slot = .compiled number unit → Answers s slot number := by
  have isolated {v v' : Workshop} (furnished : v.Furnished) {births : List Instance}
      {log : List Served} (h : v.Dealings births log v') : v'.Isolated births log :=
    h.isolated furnished.untouched.residents furnished.made
  refine ⟨fun events => (dealings_after furnished events).1, fun births log w' h =>
    ⟨isolated furnished h, fun bench names built name path left loaded => ?_⟩,
    fun v furnished' births log w' births' log' v' h h' n n' i i' found found' library given => ?_,
    fun s slot number unit handle => answers_of_slot handle⟩
  · exact h.make (w'.makes_instantiate bench names (Workshop.accepted_of_load loaded).2).1
  · rw [(isolated furnished h).values n i found, (isolated furnished' h').values n' i' found',
      library, given]

/-- A library whose instances count how often they were called. -/
def counter : Library :=
  ⟨fun _ => true, interfaceVersion, true, fun earlier _ => .ofNat earlier.length⟩

/-- A compiler that makes that library of everything. -/
def counting (_ : List Attempt) (_ : Call) : Response :=
  .started (.ended ⟨.exited 0, [], some (.library counter), 5⟩) none

/-- Two instances of one expression count their own calls. -/
theorem values_of_counting :
    let made (slot : String) : List Event := [.ask ⟨0, "x"⟩, .pursue, .pursue, .answer slot]
    let log := served (first (.bare counting 0))
      (made "a" ++ made "b" ++ [.call "a" 3, .call "b" 3, .call "a" 3])
    valuesOf 0 log = [.ofNat 0, .ofNat 1] ∧ valuesOf 1 log = [.ofNat 0] := by
  intro made log
  let events := made "a" ++ made "b" ++ [.call "a" 3, .call "b" 3, .call "a" 3]
  obtain ⟨session, dealings, -, -⟩ := isolation_exact (Workshop.furnished_bare counting 0)
  obtain ⟨isolated, -⟩ := dealings _ _ _ (session events)
  have libraries : (births (first (.bare counting 0)) events).map Instance.library =
      [counter, counter] := rfl
  have values (n : Nat) (own : [counter, counter][n]? = some counter) :
      valuesOf n log = counter.answers [] (argumentsOf n log) := by
    rw [← libraries, List.getElem?_map, Option.map_eq_some_iff] at own
    obtain ⟨i, found, library⟩ := own
    rw [isolated.values n i found, library]
  obtain ⟨twice, once⟩ : (argumentsOf 0 log).length = 2 ∧ (argumentsOf 1 log).length = 1 := by
    decide +kernel
  obtain ⟨a, b, two⟩ := List.length_eq_two.1 twice
  obtain ⟨c, one⟩ := List.length_eq_one_iff.1 once
  rw [values 0 rfl, values 1 rfl, two, one]
  exact ⟨rfl, rfl⟩

end Moment

end Plotter
