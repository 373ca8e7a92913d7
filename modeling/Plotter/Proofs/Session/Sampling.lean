import Plotter.Proofs.Session.Isolation

/-!
# Sampling is calling at each point

To sample a handle over a domain is to call it at the points of the domain, one after the other. An
instance may keep state: what it returns as its k-th evaluation may depend on all the arguments that
it was given until then (`Library.evaluation?`). So it matters that each point is evaluated once and
in its place, by the instance itself and not by a copy of it, whichever of the handles on the
instance are called.

## What is proved

* `Workshop.evaluates_callAll`: calling a handle at several arguments is a row of evaluations of the
  instance behind it, which are the next ones that it serves, and nothing else happens.
* `Workshop.callEach_eq`: it does not matter which of the handles on an instance are called.
* `Moment.sampling_exact`: so the samples of a handle are its domain's points with what the instance
  returns for each of them as its next evaluation.
-/

namespace Plotter

/-! ### Evaluations by their numbers -/

namespace Library

/-- What an instance of a library returns as its evaluation with a number, counted from one, when
these are the arguments that it is given, in order. -/
def evaluation? (l : Library) (arguments : List Float) : (number : Nat) → Option Float
  | 0 => none
  | k + 1 => arguments[k]?.map (l.value (arguments.take k).reverse)

theorem getElem?_answers (l : Library) (earlier xs : List Float) (k : Nat) :
    (l.answers earlier xs)[k]? = xs[k]?.map (l.value ((xs.take k).reverse ++ earlier)) := by
  induction xs generalizing earlier k with
  | nil => rfl
  | cons x xs ih =>
    cases k with
    | zero => rfl
    | succ k =>
      rw [answers, List.getElem?_cons_succ, ih, List.getElem?_cons_succ, List.take_succ_cons,
        List.reverse_cons, List.append_assoc]
      rfl

/-- The answers after some arguments are the evaluations that come next. -/
theorem getElem?_answers_reverse (l : Library) (given xs : List Float) (k : Nat) :
    (l.answers given.reverse xs)[k]? = l.evaluation? (given ++ xs) (given.length + (k + 1)) := by
  rw [getElem?_answers, ← Nat.add_assoc, evaluation?, List.take_length_add_append,
    List.reverse_append, List.getElem?_append_right (Nat.le_add_right ..), Nat.add_sub_cancel_left]

end Library

/-! ### Calling at several arguments -/

namespace Workshop

variable {w : Workshop} {number : Nat} {unit : String}

/-- How many evaluations an instance has served, if it is there. -/
def evaluations? (w : Workshop) (number : Nat) : Option Nat :=
  (w.resident? number).map fun r => r.body.earlier.length

/-- From one workshop to the next, an instance of a library serves the arguments `xs` with the values
`ys`. It served the arguments `given` before, and nothing else happens. -/
structure Evaluates (w : Workshop) (number : Nat) (l : Library) (given xs ys : List Float)
    (w' : Workshop) : Prop where
  before : w.evaluations? number = some given.length
  /-- The values are those of the evaluations with the next numbers. -/
  values : ∀ k, ys[k]? = l.evaluation? (given ++ xs) (given.length + (k + 1))
  after : w'.evaluations? number = some (given.length + xs.length)
  others : ∀ other, other ≠ number → w'.resident? other = w.resident? other
  rest : w' = { w with residents := w'.residents }

/-- Where no two instances have one number, an instance is found by its own. -/
theorem resident?_of_mem {r : Resident} (distinct : (w.residents.map Resident.number).Nodup)
    (member : r ∈ w.residents) : w.resident? r.number = some r := by
  obtain ⟨r', found⟩ := exists_resident? member
  have number : r'.number = r.number := by simpa using List.find?_some found
  rw [found, List.inj_on_of_nodup_map distinct (List.mem_of_find?_eq_some found) member number]

/-- A call leads to the instance with the number of the handle, and to no other. -/
theorem resident?_call (w : Workshop) (number : Nat) (unit : String) (x : Float) (other : Nat) :
    (w.call (.compiled number unit) x).2.resident? other =
      (w.resident? other).map fun r =>
        if other = number then { r with body := (r.body.call x).2 } else r := by
  cases there : w.resident? number with
  | none =>
    have idle : (w.call (.compiled number unit) x).2 = w := by simp only [call, there]
    rw [idle]
    by_cases own : other = number
    · rw [own, there]
      rfl
    · simp [own]
  | some r =>
    have changed : (w.call (.compiled number unit) x).2.residents = w.residents.map fun r' =>
        if r'.number = number then { r' with body := (r.body.call x).2 } else r' := by
      simp only [call, there]
    -- A call leaves the numbers alone, so whom a number leads to is the same as before.
    have numbers : ((fun r : Resident => r.number == other) ∘ fun r' : Resident =>
        if r'.number = number then { r' with body := (r.body.call x).2 } else r') =
          fun r => r.number == other := by
      funext r'
      simp only [Function.comp]
      split <;> rfl
    rw [resident?, changed, List.find?_map, numbers, ← resident?]
    cases found : w.resident? other with
    | none => rfl
    | some r' =>
      obtain rfl : r'.number = other := by simpa using List.find?_some found
      rw [Option.map_some, Option.map_some]
      by_cases own : r'.number = number
      · rw [← own, found] at there
        rw [if_pos own, if_pos own, Option.some.inj there]
      · rw [if_neg own, if_neg own]

/-- What becomes of an instance when a handle is called at several arguments. -/
theorem resident?_callAll (w : Workshop) (number : Nat) (unit : String) (xs : List Float)
    (other : Nat) :
    (w.callAll (.compiled number unit) xs).2.resident? other =
      (w.resident? other).map fun r =>
        if other = number then
          { r with body := { r.body with earlier := xs.reverse ++ r.body.earlier } }
        else r := by
  induction xs generalizing w with
  | nil => simp
  | cons x xs ih =>
    rw [callAll_cons, ih, resident?_call, Option.map_map]
    congr 1
    funext r
    simp only [Function.comp]
    split
    · rw [List.reverse_cons, List.append_assoc]
      rfl
    · rfl

/-- The values of a handle are the answers of the library to the instance behind it. -/
theorem callAll_of_resident {r : Resident} (there : w.resident? number = some r)
    (xs : List Float) : (w.callAll (.compiled number unit) xs).1 =
      r.body.library.answers r.body.earlier xs := by
  induction xs generalizing w r with
  | nil => rfl
  | cons x xs ih =>
    have next : (w.call (.compiled number unit) x).2.resident? number =
        some { r with body := (r.body.call x).2 } := by
      rw [resident?_call, there, Option.map_some, if_pos rfl]
    have value : (w.call (.compiled number unit) x).1 = r.body.library.value r.body.earlier x := by
      simp only [call, there, Instance.call]
    rw [callAll_cons, ih next, value]
    rfl

/-- Calls change instances alone. -/
theorem callAll_eq_residents (w : Workshop) (handle : Handle) (xs : List Float) :
    (w.callAll handle xs).2 = { w with residents := (w.callAll handle xs).2.residents } := by
  induction xs generalizing w with
  | nil => rfl
  | cons x xs ih =>
    have one : (w.call handle x).2 = { w with residents := (w.call handle x).2.residents } := by
      unfold call
      split
      · rfl
      · split <;> rfl
    rw [callAll_cons, ih, one]

/-- **Calling at several arguments is a row of evaluations** of the instance behind the handle. -/
theorem evaluates_callAll {r : Resident} {given : List Float}
    (there : w.resident? number = some r) (earlier : r.body.earlier = given.reverse)
    (unit : String) (xs : List Float) :
    w.Evaluates number r.body.library given xs (w.callAll (.compiled number unit) xs).1
      (w.callAll (.compiled number unit) xs).2 where
  before := by rw [evaluations?, there, Option.map_some, earlier, List.length_reverse]
  values := fun k => by
    rw [callAll_of_resident there, earlier, Library.getElem?_answers_reverse]
  after := by
    rw [evaluations?, resident?_callAll, there, Option.map_some, if_pos rfl, Option.map_some]
    simp only [earlier, List.length_append, List.length_reverse, Nat.add_comm]
  others := fun other apart => by simp [resident?_callAll, apart]
  rest := callAll_eq_residents ..

/-- The null handle is zero everywhere, and calling it does nothing. -/
theorem callAll_null (w : Workshop) (xs : List Float) :
    w.callAll .null xs = (xs.map fun _ => Handle.nullValue, w) := by
  induction xs with
  | nil => rfl
  | cons x xs ih =>
    have one : w.call .null x = (Handle.nullValue, w) := rfl
    rw [callAll_cons, one, ih, List.map_cons]

/-! ### Copies of a handle -/

/-- Call handles one after the other, each at an argument of its own. -/
def callEach (calls : List (Handle × Float)) : StateM Workshop (List Float) :=
  calls.mapM fun c w => w.call c.1 c.2

/-- All handles on one instance are called alike. -/
theorem call_congr {handle other : Handle} (same : other.number? = handle.number?) (w : Workshop)
    (x : Float) : w.call other x = w.call handle x := by
  cases other <;> cases handle <;> simp_all [Handle.number?, call]

/-- **It does not matter which of the handles on an instance are called.** -/
theorem callEach_eq {handle : Handle} {calls : List (Handle × Float)}
    (copies : ∀ c ∈ calls, c.1.number? = handle.number?) (w : Workshop) :
    callEach calls w = w.callAll handle (calls.map Prod.snd) := by
  induction calls generalizing w with
  | nil => rfl
  | cons c calls ih =>
    obtain ⟨same, copies⟩ := List.forall_mem_cons.1 copies
    have one : callEach (c :: calls) w =
        ((w.call c.1 c.2).1 :: (callEach calls (w.call c.1 c.2).2).1,
          (callEach calls (w.call c.1 c.2).2).2) := by
      rw [callEach, List.mapM_cons]
      rfl
    rw [one, ih copies, call_congr same, List.map_cons, callAll_cons]

end Workshop

/-! ### Samples -/

namespace Session

variable (s : Session) (handle : Handle) (domain : SampleDomain)

/-- There is one sample for each point of the domain, in its order. -/
theorem map_x_sample : (s.sample handle domain).1.map Sample.x = domain.points := by
  have length := s.workshop.length_callAll handle domain.points
  simp only [sample, List.map_map]
  exact List.map_fst_zip (Nat.le_of_eq length.symm)

/-- The samples have the values of the handle at the points. -/
theorem map_y_sample :
    (s.sample handle domain).1.map Sample.y = (s.workshop.callAll handle domain.points).1 := by
  have length := s.workshop.length_callAll handle domain.points
  simp only [sample, List.map_map]
  exact List.map_snd_zip (Nat.le_of_eq length)

/-- The null handle is zero everywhere. -/
theorem y_eq_zero_of_null : ∀ p ∈ (s.sample .null domain).1, p.y = 0 := by
  intro p member
  have among : p.y ∈ (s.sample .null domain).1.map Sample.y := List.mem_map_of_mem member
  rw [map_y_sample, Workshop.callAll_null] at among
  obtain ⟨-, -, zero⟩ := List.mem_map.1 among
  exact zero.symm

/-- What sampling a handle over a domain comes to. In the session the instances `births` were made,
as they were then, and the calls of `log` were answered. -/
structure Sampled (births : List Instance) (log : List Served) (samples : List Sample)
    (s' : Session) : Prop where
  /-- There is one sample for each point of the domain, in order. -/
  size : samples.length = domain.size
  points : samples.map Sample.x = domain.points
  /-- The instance that was made for the handle serves one evaluation for each point. -/
  evaluates : ∀ number unit, handle = .compiled number unit →
    ∃ i, births[number]? = some i ∧ i.unit = unit ∧
      s.workshop.Evaluates number i.library (argumentsOf number log) domain.points
        (samples.map Sample.y) s'.workshop
  /-- The null handle is zero at each point, and no instance serves any evaluation. -/
  null : handle = .null → (∀ p ∈ samples, p.y = 0) ∧ s' = s
  /-- The handle may as well be called at each point in order, or one that is on its instance. -/
  calls : ∀ calls : List (Handle × Float), calls.map Prod.snd = domain.points →
    (∀ c ∈ calls, c.1.number? = handle.number?) →
      Workshop.callEach calls s.workshop = (samples.map Sample.y, s'.workshop)
  /-- It is what a user is answered who has the handle in a slot. -/
  answers : ∀ slot, s.slot slot = handle → s.act (.sample slot domain) = (.samples samples, s')
  rest : s' = { s with workshop := s'.workshop }

end Session

namespace Moment

variable {w : Workshop}

/-- Behind every handle of the user's is the instance that was made for it, and it was given what is
on the log. -/
theorem exists_of_offers (furnished : w.Furnished) (events : List Event) {number : Nat}
    {unit : String} (offered : ((first w).after events).Offers (.compiled number unit)) :
    ∃ r i, ((first w).after events).session.workshop.resident? number = some r ∧
      (births (first w) events)[number]? = some i ∧ i.unit = unit ∧
        r.body = { i with earlier := (argumentsOf number (served (first w) events)).reverse } := by
  obtain ⟨dealings, backed⟩ := dealings_after furnished events
  have isolated := dealings.isolated furnished.untouched.residents furnished.made
  obtain ⟨r, member, rfl, rfl⟩ := backed number unit offered
  obtain ⟨i, made, body⟩ := isolated.standing r member
  exact ⟨r, i, Workshop.resident?_of_mem isolated.distinct member, made, by rw [body], body⟩

/-- **Sampling is calling at each point.** In every session, whatever happened in it, and for every
handle that its user has and every domain: the samples are the points in order, each with what the
instance behind the handle returns for it as its next evaluation. The instance has then served as
many evaluations more as there are points, and no other has served any. It comes to the same as
calling any handles on the instance at the points in order. The null handle is zero everywhere. -/
theorem sampling_exact (furnished : w.Furnished) (events : List Event) (domain : SampleDomain) :
    let s := ((first w).after events).session
    ∀ handle, handle = .null ∨ ((first w).after events).Offers handle →
      s.Sampled handle domain (births (first w) events) (served (first w) events)
        (s.sample handle domain).1 (s.sample handle domain).2 := by
  intro s handle had
  constructor
  case size =>
    have length := congrArg List.length (s.map_x_sample handle domain)
    simpa only [List.length_map, SampleDomain.points, List.length_range] using length
  case points => exact s.map_x_sample handle domain
  case evaluates =>
    rintro number unit rfl
    have offered := had.resolve_left Handle.noConfusion
    obtain ⟨r, i, there, made, same, body⟩ := exists_of_offers furnished events offered
    have earlier : r.body.earlier = (argumentsOf number (served (first w) events)).reverse := by
      rw [body]
    have library : r.body.library = i.library := by rw [body]
    have evaluates := Workshop.evaluates_callAll there earlier unit domain.points
    rw [← Session.map_y_sample, library] at evaluates
    exact ⟨i, made, same, evaluates⟩
  case null =>
    rintro rfl
    refine ⟨s.y_eq_zero_of_null domain, ?_⟩
    simp only [Session.sample, Workshop.callAll_null]
  case calls =>
    intro calls arguments copies
    rw [Workshop.callEach_eq copies, arguments, Session.map_y_sample]
    rfl
  case answers =>
    rintro slot rfl
    rfl
  case rest => rfl

/-- Two instances of one expression count their evaluations. The first was called twice, through two
handles, and is sampled through one of them. -/
theorem samples_of_counting :
    let made (slot : String) : List Event := [.ask ⟨0, "x"⟩, .pursue, .pursue, .answer slot]
    let events := made "a" ++ made "b" ++ [.copy "a" "c", .call "c" 3, .call "b" 3, .call "a" 3]
    let s := ((first (.bare counting 0)).after events).session
    let domain : SampleDomain := ⟨.step 0 1, 3, by decide⟩
    let sampled := s.sample (s.slot "c") domain
    sampled.1.map Sample.y = [.ofNat 2, .ofNat 3, .ofNat 4] ∧
      sampled.2.workshop.evaluations? 0 = some 5 ∧ sampled.2.workshop.evaluations? 1 = some 1 := by
  intro made events s domain sampled
  obtain ⟨unit, handle⟩ : ∃ unit, s.slot "c" = .compiled 0 unit := ⟨_, rfl⟩
  have exact := sampling_exact (Workshop.furnished_bare counting 0) events domain (s.slot "c")
    (offers_of_slot _ "c")
  obtain ⟨i, born, -, evaluates⟩ := exact.evaluates 0 unit handle
  have library : i.library = counter := by
    have libraries : (births (first (.bare counting 0)) events).map Instance.library =
        [counter, counter] := rfl
    have own : [counter, counter][0]? = some i.library := by
      rw [← libraries, List.getElem?_map, born, Option.map_some]
    exact (Option.some.inj own).symm
  obtain ⟨a, b, given⟩ : ∃ a b, argumentsOf 0 (served (first (.bare counting 0)) events) = [a, b] :=
    List.length_eq_two.1 (by decide +kernel)
  obtain ⟨x, y, z, values⟩ : ∃ x y z, sampled.1.map Sample.y = [x, y, z] := by
    refine List.length_eq_three.1 ?_
    rw [List.length_map]
    exact exact.size
  have once : s.workshop.evaluations? 1 = some 1 := by decide +kernel
  rw [library, given, values] at evaluates
  refine ⟨?_, evaluates.after, ?_⟩
  · rw [values, Option.some.inj (evaluates.values 0), Option.some.inj (evaluates.values 1),
      Option.some.inj (evaluates.values 2)]
    rfl
  · rw [← once, Workshop.evaluations?, evaluates.others 1 (by decide)]
    rfl

end Moment

end Plotter
