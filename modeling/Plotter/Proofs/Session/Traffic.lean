import Mathlib
import Plotter.Proofs.Naming
import Plotter.Proofs.Session.Attempts

/-!
# No name is handed out twice

Any number of requests may go on in a workshop at once, through any of its hosts, and all of them
take their names from one source. A *traffic* is any order in which they do so: a host prepares a
unit under fresh names, the compiler is called for a unit that was prepared and for which it was not
called yet, names are taken for no unit at all, and in between anything happens that takes no names
and calls no compiler. Further hosts may be set up meanwhile.

Names are told apart by their serial numbers alone. The digits of chance may be any, and all the
same.

## What is proved

* `Traffic.advance`: a step of a request, whatever its phase, goes on with a traffic.
* `Traffic.after`: a session is a traffic, whatever its events.
* `Traffic.issued_eq`: in a traffic the names are those of consecutive serial numbers.
* `Workshop.names_exact`: below 2⁶⁴ of them no name is handed out twice, and the source counts them.

## Honest scope

A traffic is a sequence of steps, and to take a pair of names is one of them. That threads which
take names at once are served one after the other is assumed, not proved.
-/

namespace Plotter

/-- A unit that was prepared, and the host that it is for. -/
structure Commission where
  host : Host
  unit : SourceUnit

/-- The name of what is to be compiled, as the compiler is told it. -/
def Call.crate? (c : Call) : Option String := (c.arguments.dropWhile (· != "--crate-name"))[1]?

theorem Bench.crate?_callFor (b : Bench) (m : Machine) (unit : SourceUnit) :
    (b.callFor m unit).crate? = some unit.names.crate := by
  have skipped : ("-" != "--crate-name") = true ∧ ("--crate-type=cdylib" != "--crate-name") = true ∧
      ("--crate-name" != "--crate-name") = false := by decide
  simp [Call.crate?, callFor, Settings.arguments, skipped]

/-- Different files have different paths in a scratch directory. -/
theorem Machine.scratchPath_injective (m : Machine) {scratch : Nat} :
    Function.Injective (m.scratchPath scratch) := fun file file' same => by
  have chars := congrArg String.toList same
  simp only [scratchPath, String.toList_append] at chars
  exact String.toList_injective (List.append_cancel_left chars)

/-- What went on in a workshop since it was `w`: the names that were handed out in order, the units
that wait for the compiler, and those for which it was called, latest first. -/
inductive Traffic (w : Workshop) :
    (issued : List UnitNames) → (waiting called : List Commission) → Workshop → Prop
  /-- Nothing yet. -/
  | start : Traffic w [] [] [] w
  /-- Names are taken for no unit. -/
  | take {issued : List UnitNames} {waiting called : List Commission} {w' : Workshop}
      (earlier : Traffic w issued waiting called w') :
      Traffic w (issued ++ [w'.names.next.1]) waiting called { w' with names := w'.names.next.2 }
  /-- A host prepares a unit. -/
  | prepare {issued : List UnitNames} {waiting called : List Commission} {w' w'' : Workshop}
      {r : Request} {host : Host} {unit : SourceUnit}
      (earlier : Traffic w issued waiting called w')
      (done : w'.prepare r host = (.ok unit, w'')) :
      Traffic w (issued ++ [unit.names]) (⟨host, unit⟩ :: waiting) called w''
  /-- The compiler is called for a unit that waits for it. -/
  | call {issued : List UnitNames} {before after called : List Commission} {w' : Workshop}
      {c : Commission} (earlier : Traffic w issued (before ++ c :: after) called w') :
      Traffic w issued (before ++ after) (c :: called)
        { w' with machine := (c.host.bench.call w'.machine c.unit).2 }
  /-- Something else happens. -/
  | other {issued : List UnitNames} {waiting called : List Commission} {w' w'' : Workshop}
      (earlier : Traffic w issued waiting called w') (names : w''.names = w'.names)
      (attempts : w''.machine.attempts = w'.machine.attempts) :
      Traffic w issued waiting called w''

namespace Workshop

variable {w : Workshop} {r : Request} {host : Host}

/-- A unit is prepared under the next pair of names. -/
theorem of_prepare {unit : SourceUnit} {w' : Workshop} (h : w.prepare r host = (.ok unit, w')) :
    unit.names = w.names.next.1 ∧ w'.names = w.names.next.2 ∧ w'.machine = w.machine := by
  simp only [prepare] at h
  split at h
  · simp at h
  · obtain ⟨same, rfl⟩ := Prod.mk.inj h
    obtain rfl := Except.ok.inj same
    exact ⟨rfl, rfl, rfl⟩

/-- Without a template no names are taken. -/
theorem of_prepare_error {failure : Failure} {w' : Workshop}
    (h : w.prepare r host = (.error failure, w')) :
    w'.names = w.names ∧ w'.machine = w.machine := by
  simp only [prepare] at h
  split at h
  · obtain ⟨-, rfl⟩ := Prod.mk.inj h
    exact ⟨rfl, rfl⟩
  · simp at h

end Workshop

namespace Traffic

variable {w w' w'' : Workshop} {issued : List UnitNames} {waiting called : List Commission}

/-! ### What goes on with a traffic -/

theorem quiet (h : Traffic w issued waiting called w') (quiet : w'.Quiet w'') :
    Traffic w issued waiting called w'' :=
  h.other quiet.names quiet.machine.attempts

/-- The workshop goes on with a traffic: units are prepared, and the compiler is called for each of
them at once. -/
def GoesOn (w : Workshop) (issued : List UnitNames) (waiting called : List Commission)
    (w' : Workshop) : Prop :=
  ∃ new : List Commission,
    Traffic w (issued ++ new.map (·.unit.names)) waiting (new ++ called) w'

theorem goesOn (h : Traffic w issued waiting called w') : GoesOn w issued waiting called w' :=
  ⟨[], by simpa using h⟩

/-- An attempt prepares a unit and calls the compiler for it, unless there is no template. -/
theorem attempt (h : Traffic w issued waiting called w') (r : Request) (host : Host)
    (retried : UInt32) : GoesOn w issued waiting called (w'.attempt r host retried).2 := by
  unfold Workshop.attempt
  cases done : w'.prepare r host with
  | mk result w'' =>
    cases result with
    | error failure =>
      obtain ⟨names, machine⟩ := Workshop.of_prepare_error done
      exact ((h.other names (congrArg Machine.attempts machine)).quiet
        (w''.quiet_fail r failure)).goesOn
    | ok unit =>
      have begun := @call w _ [] waiting called _ ⟨host, unit⟩ (h.prepare done)
      refine ⟨[⟨host, unit⟩], ?_⟩
      dsimp only
      split
      · exact begun.quiet (Workshop.quiet_fail ..)
      · exact begun

/-- **A step of a request goes on with a traffic**, whatever the request and its phase. -/
theorem advance (h : Traffic w issued waiting called w') (r : Request) (phase : Phase) :
    GoesOn w issued waiting called (w'.advance r phase).2 := by
  have step := w'.advances r phase
  generalize w'.advance r phase = next at step ⊢
  cases step with
  | stuck halted => exact h.goesOn
  | first found => exact h.attempt r _ 0
  | made found ended => exact (h.quiet ended.quiet).goesOn
  | again found ended => exact (h.quiet (ended.quiet_note _)).attempt r _ _
  | failed found ended => exact (h.quiet (ended.quiet_fail r _)).goesOn

/-- An event of a session goes on with a traffic. -/
theorem react {m : Moment} (h : Traffic w issued waiting called m.session.workshop) (e : Event) :
    GoesOn w issued waiting called (m.react e).session.workshop := by
  rcases m.quiet_or_advance e with quiet | ⟨r, phase, advanced⟩
  · exact (h.quiet quiet).goesOn
  · rw [advanced]
    exact h.advance r phase

/-- **A session is a traffic**, in which no unit waits for the compiler. -/
theorem after (w : Workshop) (events : List Event) :
    ∃ issued called, Traffic w issued [] called ((Moment.first w).after events).session.workshop := by
  refine Moment.after_induction (P := fun m => ∃ issued called,
    Traffic w issued [] called m.session.workshop) ?_ ⟨[], [], .start⟩ events
  rintro m e ⟨issued, called, h⟩
  obtain ⟨new, on⟩ := h.react e
  exact ⟨_, _, on⟩

/-! ### What holds in a traffic -/

/-- The source of names counts the names that were handed out. -/
theorem names_eq (h : Traffic w issued waiting called w') :
    w'.names = { w.names with issued := w.names.issued + UInt64.ofNat issued.length } := by
  have next (s : NameSource) (n : Nat) :
      ({ s with issued := s.issued + UInt64.ofNat n } : NameSource).next.2 =
        { s with issued := s.issued + UInt64.ofNat (n + 1) } := by
    simp [NameSource.next, UInt64.add_assoc]
  induction h with
  | start => simp
  | take earlier ih => simp only [ih, next, List.length_append, List.length_singleton]
  | prepare earlier done ih =>
    rw [(Workshop.of_prepare done).2.1, ih, next, List.length_append, List.length_singleton]
  | call earlier ih => exact ih
  | other earlier names attempts ih => exact names.trans ih

/-- **The names are those of consecutive serial numbers.** -/
theorem issued_eq (h : Traffic w issued waiting called w') :
    issued = (List.range issued.length).map
      fun k => w.names.namesAt (w.names.issued + UInt64.ofNat k) := by
  have next {issued : List UnitNames} {w' : Workshop} (names : UnitNames)
      (counted : w'.names =
        { w.names with issued := w.names.issued + UInt64.ofNat issued.length })
      (taken : names = w'.names.next.1)
      (ih : issued = (List.range issued.length).map
        fun k => w.names.namesAt (w.names.issued + UInt64.ofNat k)) :
      issued ++ [names] = (List.range (issued ++ [names]).length).map
        fun k => w.names.namesAt (w.names.issued + UInt64.ofNat k) := by
    rw [List.length_append, List.length_singleton, List.range_succ, List.map_append, ← ih, taken,
      counted]
    rfl
  induction h with
  | start => rfl
  | take earlier ih => exact next _ earlier.names_eq rfl ih
  | prepare earlier done ih => exact next _ earlier.names_eq (Workshop.of_prepare done).1 ih
  | call earlier ih => exact ih
  | other earlier names attempts ih => exact ih

/-- The units have names that were handed out, each its own. -/
theorem subperm (h : Traffic w issued waiting called w') :
    ((called ++ waiting).map (·.unit.names)).Subperm issued := by
  induction h with
  | start => exact .refl _
  | take earlier ih => exact ih.trans (List.sublist_append_left ..).subperm
  | prepare earlier done ih =>
    refine (List.perm_middle.map _).subperm.trans ?_
    exact ((List.subperm_cons _).2 ih).trans (List.perm_append_singleton ..).symm.subperm
  | @call issued before after called w' c earlier ih =>
    have moved : (c :: called ++ (before ++ after)).Perm (called ++ (before ++ c :: after)) := by
      rw [← List.append_assoc called, List.cons_append, ← List.append_assoc]
      exact List.perm_middle.symm
    exact (moved.map _).subperm.trans ih
  | other earlier names attempts ih => exact ih

/-- What the compiler was told are the names of the units for which it was called. -/
theorem told_eq (h : Traffic w issued waiting called w') :
    w'.machine.attempts.map (·.call.crate?) =
      called.map (fun c => some c.unit.names.crate) ++ w.machine.attempts.map (·.call.crate?) := by
  induction h with
  | start => rfl
  | take earlier ih => exact ih
  | prepare earlier done ih => rw [(Workshop.of_prepare done).2.2, ih]
  | @call issued before after called w' c earlier ih =>
    have recorded : (c.host.bench.call w'.machine c.unit).2.attempts.map (·.call.crate?) =
        (c.host.bench.callFor w'.machine c.unit).crate? ::
          w'.machine.attempts.map (·.call.crate?) := rfl
    rw [recorded, ih, Bench.crate?_callFor, List.map_cons, List.cons_append]
  | other earlier names attempts ih => rw [attempts, ih]

/-- What tells serial numbers apart tells apart the names that were handed out. -/
theorem nodup_map {β : Type} {f : UnitNames → β} (h : Traffic w issued waiting called w')
    (few : issued.length < UInt64.size)
    (apart : ∀ i j, f (w.names.namesAt i) = f (w.names.namesAt j) → i = j) :
    (issued.map f).Nodup := by
  rw [h.issued_eq, List.map_map]
  refine List.Nodup.map_on (fun i below j below' same => ?_) List.nodup_range
  rw [List.mem_range] at below below'
  have serials := congrArg UInt64.toNat ((UInt64.add_right_inj _).1 (apart _ _ same))
  rwa [UInt64.toNat_ofNat_of_lt' (below.trans few), UInt64.toNat_ofNat_of_lt' (below'.trans few)]
    at serials

/-- And what tells the names apart tells their units apart. -/
theorem nodup_units {β : Type} {f : UnitNames → β} (h : Traffic w issued waiting called w')
    (apart : (issued.map f).Nodup) : ((called ++ waiting).map fun c => f c.unit.names).Nodup := by
  obtain ⟨names, perm, sublist⟩ := h.subperm
  have same : ((called ++ waiting).map (·.unit.names)).map f =
      (called ++ waiting).map fun c => f c.unit.names := List.map_map
  rw [← same]
  exact (perm.map f).nodup_iff.1 ((sublist.map f).nodup apart)

end Traffic

/-- No name is handed out twice, in any of the forms that come of it. -/
structure Workshop.NamesApart (w : Workshop) (issued : List UnitNames)
    (waiting called : List Commission) : Prop where
  /-- The source counts the names that were handed out. -/
  counted : w.names.issued.toNat = issued.length
  units : (issued.map UnitNames.unit).Nodup
  qualified : (issued.map UnitNames.qualified).Nodup
  crates : (issued.map UnitNames.crate).Nodup
  /-- The compiler was told the names of the units for which it was called, and no name twice. -/
  told : w.machine.attempts.map (·.call.crate?) = called.map fun c => some c.unit.names.crate
  toldOnce : (w.machine.attempts.map (·.call.crate?)).Nodup
  /-- The units have names that were handed out, each its own. -/
  commissioned : ((called ++ waiting).map (·.unit.names)).Subperm issued
  /-- The libraries that are for one scratch directory have places of their own in it. -/
  paths : ∀ (m : Machine) (scratch : Nat),
    (((called ++ waiting).filter (·.host.bench.scratch = scratch)).map
      fun c => c.host.bench.libraryPath m c.unit.names).Nodup

namespace Workshop

variable {w w' : Workshop} {issued : List UnitNames} {waiting called : List Commission}

theorem namesApart_of_traffic (furnished : w.Furnished) (h : Traffic w issued waiting called w')
    (few : issued.length < UInt64.size) : w'.NamesApart issued waiting called := by
  have unissued := furnished.untouched.issued
  have crates := h.nodup_map few fun _ _ => w.names.crateAt_injective
  have told : w'.machine.attempts.map (·.call.crate?) =
      called.map fun c => some c.unit.names.crate := by
    rw [h.told_eq, furnished.untouched.attempts, List.map_nil, List.append_nil]
  refine ⟨?_, h.nodup_map few fun _ _ => w.names.unitAt_injective,
    h.nodup_map few fun _ _ => w.names.qualifiedAt_injective, crates, told, ?_, h.subperm,
    fun m scratch => ?_⟩
  · rw [h.names_eq, unissued, UInt64.zero_add, UInt64.toNat_ofNat_of_lt' few]
  · have once := h.nodup_units crates
    rw [List.map_append] at once
    have mapped := (List.Nodup.of_append_left once).map (Option.some_injective _)
    rw [List.map_map] at mapped
    rw [told]
    exact mapped
  · have apart : (issued.map fun names =>
        m.scratchPath scratch (Settings.libraryFile names)).Nodup :=
      h.nodup_map few fun i j same => w.names.fileAt_injective (m.scratchPath_injective same)
    have same : ((called ++ waiting).filter (·.host.bench.scratch = scratch)).map
          (fun c => c.host.bench.libraryPath m c.unit.names) =
        ((called ++ waiting).filter (·.host.bench.scratch = scratch)).map
          fun c => m.scratchPath scratch (Settings.libraryFile c.unit.names) := by
      refine List.map_congr_left fun c member => ?_
      have lodged : c.host.bench.scratch = scratch := by simpa using (List.mem_filter.1 member).2
      rw [Bench.libraryPath, lodged]
    rw [same]
    exact (List.filter_sublist.map _).nodup (h.nodup_units apart)

/-- **No name is handed out twice.** All that goes on in a workshop is a traffic: each session is
one, whatever its events, and each step of any request goes on with one, whatever the base of the
names and the digits of chance. And in a traffic with fewer than 2⁶⁴ names the source counts them,
and no two are the same: not the names of the units, nor their qualified names, nor the names that
the compiler is told, nor the paths of the libraries in one scratch directory. -/
theorem names_exact (furnished : w.Furnished) :
    (∀ events, ∃ issued called,
      Traffic w issued [] called ((Moment.first w).after events).session.workshop) ∧
    ∀ issued waiting called w', Traffic w issued waiting called w' →
      (∀ r phase, ∃ new : List Commission,
        Traffic w (issued ++ new.map (·.unit.names)) waiting (new ++ called)
          (w'.advance r phase).2) ∧
      (issued.length < UInt64.size → w'.NamesApart issued waiting called) :=
  ⟨Traffic.after w, fun _ _ _ _ h => ⟨h.advance, namesApart_of_traffic furnished h⟩⟩

/-- Two pairs of names with the same digits of chance, the second of them for a unit. -/
theorem namesApart_of_draw :
    let w : Workshop := .bare Moment.flaky 3
    ∃ w' names names' called, w.names.chance 0 = w.names.chance 1 ∧
      names = w.names.namesAt 0 ∧ names' = w.names.namesAt 1 ∧
        Traffic w [names, names'] [] called w' ∧ w'.NamesApart [names, names'] [] called := by
  intro w
  have taken : Traffic w [w.names.namesAt 0] [] [] { w with names := w.names.next.2 } :=
    Traffic.start.take
  have ready : ({ w with names := w.names.next.2 } : Workshop).hosts[0]? = some (Host.bare 3) := rfl
  have begun := taken.prepare (r := ⟨0, "x"⟩) (prepare_eq ready rfl)
  have called := @Traffic.call w _ [] [] [] _ _ begun
  exact ⟨_, _, _, _, rfl, rfl, rfl, called,
    ((names_exact (furnished_bare Moment.flaky 3)).2 _ _ _ _ called).2 (by decide)⟩

end Workshop

end Plotter
