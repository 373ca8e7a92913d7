import Plotter.Proofs.Request.Upkeep

/-!
# Instances on their own

An instance is known by its number, and every handle on it, wherever it was copied to, leads to it
by that number. So an instance is given the arguments of the calls with its number and no others,
and what it answers is what its library answers to an instance that was given these.

`Workshop.Dealings` is all that can happen to the instances of a workshop: one is made, one is
called, some are let go of. It keeps a list of the instances as they were when they were made, in
the order of their numbers, and a log of the calls.

## What is proved

* `Workshop.advance_makes`: a step of a request makes one instance or none, and the request has a
  handle on it just in case there is one.
* `Workshop.Dealings.isolated`: whatever happened, each instance answered what its library answers
  to the arguments that it was given itself.
-/

namespace Plotter

/-! ### What a library answers -/

/-- A library that is accepted, and whose constructor makes instances. -/
structure Library.Capable (l : Library) : Prop where
  accepted : l.shortfall? = none
  constructs : l.constructs = true

/-- The values that a library gives at several arguments in order to an instance that was given the
arguments `earlier` before, latest first. -/
def Library.answers (l : Library) : (earlier : List Float) → List Float → List Float
  | _, [] => []
  | earlier, x :: xs => l.value earlier x :: l.answers (x :: earlier) xs

theorem Library.answers_concat (l : Library) (earlier xs : List Float) (x : Float) :
    l.answers earlier (xs ++ [x]) = l.answers earlier xs ++ [l.value (xs.reverse ++ earlier) x] := by
  induction xs generalizing earlier with
  | nil => rfl
  | cons y xs ih =>
    rw [List.cons_append, answers, ih, answers, List.reverse_cons, List.append_assoc]
    rfl

/-- A call that was answered. -/
structure Served where
  /-- The number of the instance. -/
  number : Nat
  argument : Float
  value : Float

/-- The arguments that the instance with a number was given, in order. -/
def argumentsOf (number : Nat) (log : List Served) : List Float :=
  (log.filter (·.number = number)).map Served.argument

/-- The values that the instance with a number answered, in order. -/
def valuesOf (number : Nat) (log : List Served) : List Float :=
  (log.filter (·.number = number)).map Served.value

section Log

variable {number k : Nat} {log : List Served} {x y : Float}

theorem argumentsOf_concat_self :
    argumentsOf number (log ++ [⟨number, x, y⟩]) = argumentsOf number log ++ [x] := by
  simp [argumentsOf]

theorem argumentsOf_concat_other (other : k ≠ number) :
    argumentsOf number (log ++ [⟨k, x, y⟩]) = argumentsOf number log := by
  simp [argumentsOf, other]

theorem valuesOf_concat_self :
    valuesOf number (log ++ [⟨number, x, y⟩]) = valuesOf number log ++ [y] := by
  simp [valuesOf]

theorem valuesOf_concat_other (other : k ≠ number) :
    valuesOf number (log ++ [⟨k, x, y⟩]) = valuesOf number log := by
  simp [valuesOf, other]

/-- An instance that is not in the log was given nothing. -/
theorem filter_eq_nil_of_known {bound : Nat} (known : ∀ s ∈ log, s.number < bound)
    (beyond : bound ≤ number) : log.filter (·.number = number) = [] := by
  rw [List.filter_eq_nil_iff]
  intro s member own
  have below := known s member
  have same : s.number = number := by simpa using own
  omega

end Log

namespace Workshop

/-- From one workshop to another, one new instance was made of a capable library, or none was. -/
inductive Makes (w w' : Workshop) : Option Instance → Prop
  /-- None was made. -/
  | nothing (residents : w'.residents = w.residents) (made : w'.made = w.made) : Makes w w' none
  /-- One was made. -/
  | one {scratch : Nat} {file : String} {body : Instance} (capable : body.library.Capable)
      (unused : body.earlier = [])
      (residents : w'.residents = w.residents ++ [⟨w.made, scratch, file, body⟩])
      (made : w'.made = w.made + 1) : Makes w w' (some body)

/-- The handle on an instance that is made next. -/
def handleOn (w : Workshop) : Option Instance → Handle
  | none => .null
  | some body => .compiled w.made body.unit

/-! ### Steps of requests -/

variable {w w' w'' : Workshop} {r : Request} {host : Host} {born : Option Instance}

theorem Makes.trans (h : Makes w w' none) (h' : Makes w' w'' born) : Makes w w'' born := by
  cases h with
  | nothing residents made =>
    cases h' with
    | nothing residents' made' => exact .nothing (residents'.trans residents) (made'.trans made)
    | one capable unused residents' made' =>
      rw [made] at residents' made'
      exact .one capable unused (residents'.trans (by rw [residents])) made'

theorem makes_fail (w : Workshop) (r : Request) (failure : Failure) :
    Makes w (w.fail r failure).2 none := by
  simp only [fail, noteFailure]
  split <;> exact .nothing rfl rfl

/-- A library that is loaded is accepted. -/
theorem accepted_of_load {name path : String} {left : Option Product} {loaded : LoadedUnit}
    (h : LoadedUnit.load name path left = .ok loaded) :
    loaded.name = name ∧ loaded.library.shortfall? = none := by
  unfold LoadedUnit.load at h
  split at h
  · simp at h
  · split at h
    · split at h
      · simp at h
      · rename_i accepted
        obtain rfl := Except.ok.inj h
        exact ⟨rfl, accepted⟩
    · simp at h

/-- **An instance is made of a unit that was loaded**, as often as one likes, if its constructor
makes any. -/
theorem makes_instantiate (w : Workshop) (bench : Bench) (names : UnitNames) {built : BuiltUnit}
    (accepted : built.loaded.library.shortfall? = none) :
    Makes w (w.instantiate bench names built).2 built.loaded.instantiate.toOption ∧
      handleOf (w.instantiate bench names built).1 =
        w.handleOn built.loaded.instantiate.toOption := by
  unfold instantiate LoadedUnit.instantiate
  cases constructs : built.loaded.library.constructs with
  | true => exact ⟨.one ⟨accepted, constructs⟩ rfl rfl rfl, rfl⟩
  | false => exact ⟨.nothing rfl rfl, rfl⟩

/-- A unit that came of a call was loaded, under the name of the unit of the call. -/
theorem loaded_of_finish? {b : Bench} {m m' : Machine} {c : Compilation} {built : BuiltUnit}
    (h : b.finish? m c = some (.ok built, m')) :
    built.loaded.name = c.unit.names.qualified ∧ built.loaded.library.shortfall? = none := by
  unfold Bench.finish? at h
  split at h
  · simp at h
  · simp at h
  · simp at h
  · rename_i run killed response
    have made := congrArg Prod.fst (Option.some.inj h)
    simp only [Bench.finishRun, Bench.load] at made
    split at made
    · generalize loaded : LoadedUnit.load _ _ _ = result at made
      cases result with
      | error failure => simp at made
      | ok u =>
        obtain rfl := Except.ok.inj made
        exact accepted_of_load loaded
    · simp at made

theorem makes_settle (w : Workshop) (host : Host) (unit : SourceUnit)
    {built : Except Failure BuiltUnit}
    (accepted : ∀ b, built = .ok b → b.loaded.library.shortfall? = none) :
    ∃ born, Makes w (w.settle host unit built).2 born ∧
      handleOf (w.settle host unit built).1 = w.handleOn born := by
  cases built with
  | error failure => exact ⟨none, .nothing rfl rfl, rfl⟩
  | ok built => exact ⟨_, w.makes_instantiate host.bench unit.names (accepted built rfl)⟩

theorem makes_attempt (w : Workshop) (r : Request) (host : Host) (retried : UInt32) :
    Makes w (w.attempt r host retried).2 none ∧ (w.attempt r host retried).1.handle = .null := by
  have prepared : Makes w (w.prepare r host).2 none := by
    simp only [prepare]
    split <;> exact .nothing rfl rfl
  unfold attempt
  generalize w.prepare r host = done at prepared
  obtain ⟨result, w'⟩ := done
  cases result with
  | error failure => exact ⟨prepared.trans (w'.makes_fail r failure), rfl⟩
  | ok unit =>
    dsimp only at prepared ⊢
    have called : Makes w { w' with machine := (host.bench.call w'.machine unit).2 } none :=
      prepared.trans (.nothing rfl rfl)
    split
    · exact ⟨called.trans (makes_fail ..), rfl⟩
    · exact ⟨called, rfl⟩

/-- What comes of a call is one instance or none, and there is a handle on it. -/
theorem Ends.makes {w w' : Workshop} {host : Host} {c : Compilation}
    {result : Except Failure Verdict} (h : w.Ends host c result w') :
    ∃ born, Makes w w' born ∧ handleOf result = w.handleOn born := by
  obtain ⟨built, machine, finished, settled⟩ := h
  obtain ⟨born, made, handle⟩ := makes_settle { w with machine } host c.unit
    fun b (ok : built = .ok b) => (loaded_of_finish? (ok ▸ finished)).2
  rw [settled] at made handle
  have taken : Makes w { w with machine } none := .nothing rfl rfl
  exact ⟨born, taken.trans made, handle⟩

/-- An instance that comes of a call is the next one, and its unit is that of the call. -/
theorem Ends.handle {w w' : Workshop} {host : Host} {c : Compilation} {verdict : Verdict}
    (h : w.Ends host c (.ok verdict) w') :
    (Phase.done verdict).handle = .compiled w.made c.unit.names.qualified ∧
      w'.made = w.made + 1 := by
  obtain ⟨built, machine, finished, settled⟩ := h
  cases built with
  | error failure => simp [settle] at settled
  | ok built =>
    have named := (loaded_of_finish? finished).1
    simp only [settle, instantiate, LoadedUnit.instantiate] at settled
    cases constructs : built.loaded.library.constructs with
    | false => simp [constructs] at settled
    | true =>
      simp only [constructs, if_true, lodge, Prod.mk.injEq, Except.ok.injEq] at settled
      obtain ⟨rfl, rfl⟩ := settled
      exact ⟨congrArg (Handle.compiled w.made) named, rfl⟩

/-- What follows on a failure starts from the instances of before. -/
theorem Ends.makes_none {w w' : Workshop} {host : Host} {c : Compilation} {failure : Failure}
    (h : w.Ends host c (.error failure) w') : Makes w w' none := by
  obtain ⟨born, made, handle⟩ := h.makes
  cases born with
  | none => exact made
  | some body => simp [handleOf, handleOn] at handle

/-- **A step of a request makes one instance or none**, and the request has a handle on it. -/
theorem advance_makes (w : Workshop) (r : Request) (phase : Phase) :
    w.advance r phase = (phase, w) ∨
      ∃ born, Makes w (w.advance r phase).2 born ∧
        (w.advance r phase).1.handle = w.handleOn born := by
  have step := w.advances r phase
  generalize w.advance r phase = next at step ⊢
  cases step with
  | stuck halted => exact .inl rfl
  | @first host found =>
    obtain ⟨unmade, null⟩ := w.makes_attempt r host 0
    exact .inr ⟨none, unmade, null⟩
  | made found ended =>
    obtain ⟨born, made, handle⟩ := ended.makes
    exact .inr ⟨born, made, handle⟩
  | @again host retried c failure w' found ended =>
    have noted : Makes w (w'.note (.retrying failure)) none :=
      ended.makes_none.trans (.nothing rfl rfl)
    obtain ⟨unmade, null⟩ := (w'.note (.retrying failure)).makes_attempt r host (retried + 1)
    exact .inr ⟨none, noted.trans unmade, null⟩
  | failed found ended => exact .inr ⟨none, ended.makes_none.trans (makes_fail ..), rfl⟩

/-! ### Dealings with instances -/

/-- What happened to the instances of a workshop since it was `w`: the instances that were made, as
they were then and in the order of their numbers, and the calls that were answered. -/
inductive Dealings (w : Workshop) : (births : List Instance) → (log : List Served) → Workshop → Prop
  /-- Nothing yet. -/
  | start : Dealings w [] [] w
  /-- One instance is made, or none is: something else happens. -/
  | make {births : List Instance} {log : List Served} {w' w'' : Workshop} {born : Option Instance}
      (earlier : Dealings w births log w') (made : Makes w' w'' born) :
      Dealings w (births ++ born.toList) log w''
  /-- An instance is called. -/
  | call {births : List Instance} {log : List Served} {w' : Workshop} {number : Nat}
      {unit : String} {r : Resident} (earlier : Dealings w births log w')
      (there : w'.resident? number = some r) (x : Float) :
      Dealings w births (log ++ [⟨number, x, (w'.call (.compiled number unit) x).1⟩])
        (w'.call (.compiled number unit) x).2
  /-- Instances are let go of. -/
  | release {births : List Instance} {log : List Served} {w' : Workshop}
      (earlier : Dealings w births log w') (inUse : Nat → Bool) :
      Dealings w births log (w'.release inUse)

/-- Each instance is on its own: it answered what its library answers to the arguments that it was
given itself, and goes on from these. -/
structure Isolated (w : Workshop) (births : List Instance) (log : List Served) : Prop where
  /-- An instance's number says how many were made before it. -/
  made : w.made = births.length
  /-- Each was made by a capable library, and was given nothing before. -/
  born : ∀ i ∈ births, i.library.Capable ∧ i.earlier = []
  /-- No two instances that are there have one number. -/
  distinct : (w.residents.map Resident.number).Nodup
  /-- An instance that is there is the one that was made, given its own arguments. -/
  standing : ∀ r ∈ w.residents, ∃ i, births[r.number]? = some i ∧
    r.body = { i with earlier := (argumentsOf r.number log).reverse }
  /-- No instance answered before it was made. -/
  known : ∀ s ∈ log, s.number < births.length
  /-- An instance answered what its library answers to its own arguments. -/
  values : ∀ n i, births[n]? = some i →
    valuesOf n log = i.library.answers [] (argumentsOf n log)

namespace Isolated

variable {births : List Instance} {log : List Served}

theorem start (residents : w.residents = []) (made : w.made = 0) : w.Isolated [] [] :=
  ⟨made, by simp, by simp [residents], by simp [residents], by simp, by simp⟩

theorem number_lt (h : w.Isolated births log) {r : Resident} (member : r ∈ w.residents) :
    r.number < births.length := by
  obtain ⟨i, found, -⟩ := h.standing r member
  exact (List.getElem?_eq_some_iff.1 found).1

theorem same (h : w.Isolated births log) (residents : w'.residents = w.residents)
    (made : w'.made = w.made) : w'.Isolated births log := by
  refine ⟨made.trans h.made, h.born, ?_, ?_, h.known, h.values⟩
  · rw [residents]
    exact h.distinct
  · rw [residents]
    exact h.standing

/-- An instance that is made changes nothing about the others. -/
theorem add (h : w.Isolated births log) {scratch : Nat} {file : String} {body : Instance}
    (capable : body.library.Capable) (unused : body.earlier = [])
    (residents : w'.residents = w.residents ++ [⟨w.made, scratch, file, body⟩])
    (made : w'.made = w.made + 1) : w'.Isolated (births ++ [body]) log := by
  have earlier {n : Nat} (below : n < births.length) : (births ++ [body])[n]? = births[n]? :=
    List.getElem?_append_left below
  have own : (births ++ [body])[births.length]? = some body := by simp
  -- The new one has a number that no call had so far.
  have silent := filter_eq_nil_of_known h.known (Nat.le_refl births.length)
  refine ⟨?_, fun i member => ?_, ?_, fun r member => ?_, fun s member => ?_, fun n i found => ?_⟩
  · rw [made, h.made, List.length_append, List.length_singleton]
  · rcases List.mem_append.1 member with old | new
    · exact h.born i old
    · rw [List.mem_singleton.1 new]
      exact ⟨capable, unused⟩
  · rw [residents, List.map_append, List.nodup_append]
    refine ⟨h.distinct, by simp, ?_⟩
    intro number old number' new
    obtain ⟨r, member, rfl⟩ := List.mem_map.1 old
    have below := h.number_lt member
    rw [List.map_cons, List.map_nil, List.mem_singleton] at new
    rw [new, h.made]
    exact Nat.ne_of_lt below
  · rw [residents] at member
    rcases List.mem_append.1 member with old | new
    · obtain ⟨i, found, body'⟩ := h.standing r old
      exact ⟨i, by rw [earlier (h.number_lt old), found], body'⟩
    · rw [List.mem_singleton.1 new]
      refine ⟨body, by rw [h.made, own], ?_⟩
      obtain ⟨unit, library, given⟩ := body
      obtain rfl : given = [] := unused
      rw [h.made, argumentsOf, silent]
      rfl
  · have below := h.known s member
    rw [List.length_append]
    omega
  · by_cases below : n < births.length
    · rw [earlier below] at found
      exact h.values n i found
    · have length := (List.getElem?_eq_some_iff.1 found).1
      rw [List.length_append, List.length_singleton] at length
      obtain rfl : n = births.length := by omega
      rw [own] at found
      obtain rfl := Option.some.inj found
      rw [valuesOf, argumentsOf, silent]
      rfl

theorem make (h : w.Isolated births log) (makes : Makes w w' born) :
    w'.Isolated (births ++ born.toList) log := by
  cases makes with
  | nothing residents made =>
    rw [Option.toList_none, List.append_nil]
    exact h.same residents made
  | one capable unused residents made =>
    rw [Option.toList_some]
    exact h.add capable unused residents made

/-- A call is answered by one instance, and changes no other. -/
theorem call (h : w.Isolated births log) {number : Nat} {unit : String} {r : Resident}
    (there : w.resident? number = some r) (x : Float) :
    (w.call (.compiled number unit) x).2.Isolated births
      (log ++ [⟨number, x, (w.call (.compiled number unit) x).1⟩]) := by
  obtain rfl : r.number = number := by simpa using List.find?_some there
  have member : r ∈ w.residents := List.mem_of_find?_eq_some there
  obtain ⟨i, found, body⟩ := h.standing r member
  simp only [Workshop.call, there]
  have numbers : (w.residents.map fun r' =>
      if r'.number = r.number then { r' with body := (r.body.call x).2 } else r').map
        Resident.number = w.residents.map Resident.number := by
    rw [List.map_map]
    refine List.map_congr_left fun r' _ => ?_
    simp only [Function.comp]
    split <;> rfl
  refine ⟨h.made, h.born, numbers ▸ h.distinct, fun r' member' => ?_, fun s logged => ?_,
    fun n j found' => ?_⟩
  · obtain ⟨r₀, member₀, rfl⟩ := List.mem_map.1 member'
    by_cases own : r₀.number = r.number
    · rw [if_pos own]
      refine ⟨i, own ▸ found, ?_⟩
      dsimp only
      rw [own, argumentsOf_concat_self, List.reverse_append]
      simp only [Instance.call, body]
      rfl
    · rw [if_neg own]
      obtain ⟨j, found', body'⟩ := h.standing r₀ member₀
      refine ⟨j, found', ?_⟩
      rw [argumentsOf_concat_other (Ne.symm own)]
      exact body'
  · rcases List.mem_append.1 logged with old | new
    · exact h.known s old
    · rw [List.mem_singleton.1 new]
      exact h.number_lt member
  · by_cases own : r.number = n
    · obtain rfl := own
      obtain rfl := Option.some.inj (found.symm.trans found')
      rw [valuesOf_concat_self, argumentsOf_concat_self, Library.answers_concat,
        h.values _ i found, List.append_nil]
      simp only [Instance.call, body]
    · rw [valuesOf_concat_other own, argumentsOf_concat_other own]
      exact h.values n j found'

/-- What is let go of was nobody's but its own. -/
theorem release (h : w.Isolated births log) (inUse : Nat → Bool) :
    (w.release inUse).Isolated births log := by
  have fewer : (w.release inUse).residents = w.residents.filter fun r => inUse r.number := by
    simp only [Workshop.release, List.partition_eq_filter_filter]
  refine ⟨h.made, h.born, ?_, fun r member => ?_, h.known, h.values⟩
  · rw [fewer]
    exact (List.filter_sublist.map Resident.number).nodup h.distinct
  · rw [fewer] at member
    exact h.standing r (List.mem_filter.1 member).1

end Isolated

/-- **Each instance is on its own**, whatever happened. -/
theorem Dealings.isolated {births : List Instance} {log : List Served}
    (h : w.Dealings births log w') (residents : w.residents = []) (made : w.made = 0) :
    w'.Isolated births log := by
  induction h with
  | start => exact .start residents made
  | make earlier makes ih => exact ih.make makes
  | call earlier there x ih => exact ih.call there x
  | release earlier inUse ih => exact ih.release inUse

end Workshop

end Plotter
