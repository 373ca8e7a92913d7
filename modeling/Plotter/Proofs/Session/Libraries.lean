import Plotter.Proofs.Session.Tenants

/-!
# Which libraries are there

A scratch directory is there as long as its host or a handle on an instance in it is held, and in it
are the libraries of the instances that handles are on. There is one exception. A background request
that is superseded or cancelled is stopped when its user next waits, and its run of the compiler may
be over by then; a run that was not over is killed, but a library that is there already stays
(`Moment.stranded`).

Every command lets go of what is not needed in the last of its events (`Session.reclaims_run`), so
that what is proved here holds of the sessions that commands lead to.

## What is proved

* `Moment.libraries_exact`: which scratch directories there are, and what is in them, once all
  background requests are finished and what is not needed was let go of. The libraries are those of
  the handles just in case none was left behind.
* `Moment.library_of_nobody`: a library that was left behind.

## Honest scope

The compiler is tidy (`Tool.Tidy`): it writes nothing but the library, and nothing if it fails or is
killed. Names are told apart by a serial number of 64 bits, so the names of two units could be the
same once it has come round; the theorems are about machines whose compiler was called no more than
2⁶⁴ times.
-/

namespace Plotter

/-- A handle is on an instance that has its library at a place, in a file that is named for the unit
of the handle. -/
def Workshop.LibraryAt (w : Workshop) (handle : Handle) (p : Place) : Prop :=
  ∃ (number : Nat) (names : UnitNames), handle = .compiled number names.qualified ∧
    p.file = Settings.libraryFile names ∧ (number, p) ∈ w.tenants

/-- Somebody has a handle whose library is at a place. -/
def Session.Owns (s : Session) (p : Place) : Prop :=
  ∃ handle ∈ s.handles, s.workshop.LibraryAt handle p

namespace Session

variable {s : Session}

/-- A scratch directory that was not removed is needed. -/
theorem needsScratch_of_hasScratch {number : Nat} {host : Host}
    (found : s.workshop.hosts[number]? = some host)
    (there : s.closeScratches.workshop.machine.hasScratch host.bench.scratch = true) :
    s.needsScratch number host = true := by
  by_contra unneeded
  have member : (number, host) ∈ ((List.range s.workshop.hosts.length).zip s.workshop.hosts).filter
      fun entry => !s.needsScratch entry.1 entry.2 :=
    List.mem_filter.2 ⟨mem_zip_hosts.2 found, by simpa using unneeded⟩
  have gone (unneeded : List (Nat × Host)) (m : Machine)
      (closed : (number, host) ∈ unneeded ∨ m.hasScratch host.bench.scratch = false) :
      (unneeded.foldl (fun m entry => m.closeScratch entry.2.bench.scratch) m).hasScratch
        host.bench.scratch = false := by
    induction unneeded generalizing m with
    | nil => simpa using closed
    | cons entry unneeded ih =>
      refine ih _ ?_
      rw [Machine.hasScratch_closeScratch]
      rcases closed with member | closed
      · rcases List.mem_cons.1 member with rfl | later
        · exact .inr (by simp)
        · exact .inl later
      · exact .inr (by simp [closed])
  have closed : s.closeScratches.workshop.machine.hasScratch host.bench.scratch = false :=
    gone _ s.workshop.machine (.inl member)
  rw [closed] at there
  exact absurd there (by simp)

end Session

namespace Moment

variable {w : Workshop} {events : List Event} {s : Session}

theorem eq_of_idle {m : Moment} (idle : m.awaited = none) : m = ⟨m.session, none⟩ := by
  rw [← idle]

/-- What is needed is known only when the user waits for nothing. -/
theorem of_reclaim (reached : (first w).after (events ++ [.reclaim]) = ⟨s, none⟩) :
    s = ((first w).after events).session.reclaim := by
  rw [after_append, after_cons, after_nil] at reached
  simp only [react] at reached
  split at reached
  · exact (congrArg Moment.session reached).symm
  · rename_i standing awaited
    rw [reached] at awaited
    simp at awaited

/-- An instance stays only if there is a handle on it. -/
theorem handle_of_tenant (reached : (first w).after (events ++ [.reclaim]) = ⟨s, none⟩)
    {number : Nat} {p : Place} (member : (number, p) ∈ s.workshop.tenants) :
    ∃ unit, .compiled number unit ∈ s.handles := by
  have reclaimed := of_reclaim reached
  rw [reclaimed, (tenants_reclaim _).1] at member
  have used : ((first w).after events).session.dropTasks.uses number = true :=
    (List.mem_filter.1 member).2
  obtain ⟨handle, held, own⟩ := List.any_eq_true.1 used
  cases handle with
  | null => simp [Handle.number?] at own
  | compiled number' unit =>
    obtain rfl : number' = number := by simpa [Handle.number?] using own
    exact ⟨unit, reclaimed ▸ held⟩

/-- The instances that are there are those that the user has handles on. -/
theorem owns_iff (furnished : w.Furnished) (tidy : w.machine.tool.Tidy)
    (reached : (first w).after (events ++ [.reclaim]) = ⟨s, none⟩)
    (bound : s.workshop.machine.attempts.length ≤ UInt64.size) {p : Place} :
    s.Owns p ↔ p ∈ s.workshop.residents.map Resident.place := by
  have numbered := numbered_after w (events ++ [.reclaim])
  have tenanted := tenanted_after furnished tidy (events ++ [.reclaim])
    (by rw [reached]; exact bound)
  rw [reached] at numbered tenanted
  constructor
  · rintro ⟨handle, -, number, names, -, -, member⟩
    obtain ⟨r, there, same⟩ := List.mem_map.1 member
    exact List.mem_map.2 ⟨r, there, congrArg Prod.snd same⟩
  · intro member
    obtain ⟨r, there, rfl⟩ := List.mem_map.1 member
    have tenant : (r.number, r.place) ∈ s.workshop.tenants := List.mem_map.2 ⟨r, there, rfl⟩
    obtain ⟨unit, held⟩ := handle_of_tenant reached tenant
    obtain none | offered := offers_of_mem_handles numbered held
    · simp at none
    · obtain ⟨names, scratch, rfl, member⟩ := tenanted.served _ offered
      have same := List.inj_on_of_nodup_map tenanted.distinct member tenant rfl
      rw [Prod.mk.injEq] at same
      obtain ⟨-, place⟩ := same
      rw [← place]
      exact ⟨_, held, r.number, names, rfl, rfl, member⟩

/-- The books once all background requests are finished. -/
theorem books_of_finished (furnished : w.Furnished) (tidy : w.machine.tool.Tidy)
    (reached : (first w).after (events ++ [.reclaim]) = ⟨s, none⟩)
    (finished : ∀ t ∈ s.tasks, t.state.isFinished = true)
    (bound : s.workshop.machine.attempts.length ≤ UInt64.size) :
    s.workshop.Books s.rooms [] ((first w).stranded events) := by
  have books := books_after furnished tidy (events ++ [.reclaim]) (by rw [reached]; exact bound)
  rw [reached, stranded_concat] at books
  have jobless : s.jobs = [] :=
    List.flatMap_eq_nil_iff.2 fun t member => Task.jobs_of_isFinished (finished t member) _
  unfold Moment.Books at books
  simpa only [Moment.jobs, awaitedJobs, jobless, List.append_nil, strands, List.nil_append]
    using books

/-- What is at a place when nothing is under way: the library of a handle, or one left behind. -/
theorem at?_isSome_iff (furnished : w.Furnished) (tidy : w.machine.tool.Tidy)
    (reached : (first w).after (events ++ [.reclaim]) = ⟨s, none⟩)
    (finished : ∀ t ∈ s.tasks, t.state.isFinished = true)
    (bound : s.workshop.machine.attempts.length ≤ UInt64.size) {p : Place}
    (there : s.workshop.machine.hasScratch p.scratch = true) :
    (s.workshop.machine.at? p).isSome = true ↔ s.Owns p ∨ p ∈ (first w).stranded events := by
  have books := books_of_finished furnished tidy reached finished bound
  have entry := books.entry p
  rw [owns_iff furnished tidy reached bound]
  constructor
  · intro found
    by_contra unowned
    have nothing := entry.free (by simpa [Register.places] using unowned)
    simp [nothing] at found
  · rintro (lodged | stranded)
    · obtain ⟨product, found, -⟩ := entry.lodged lodged
      simp [found]
    · exact entry.stranded stranded there

/-- A library that was left behind is nobody's. -/
theorem not_owns_of_stranded (furnished : w.Furnished) (tidy : w.machine.tool.Tidy)
    (reached : (first w).after (events ++ [.reclaim]) = ⟨s, none⟩)
    (finished : ∀ t ∈ s.tasks, t.state.isFinished = true)
    (bound : s.workshop.machine.attempts.length ≤ UInt64.size) {p : Place}
    (stranded : p ∈ (first w).stranded events) : ¬s.Owns p := by
  rw [owns_iff furnished tidy reached bound]
  intro lodged
  have books := books_of_finished furnished tidy reached finished bound
  exact (List.nodup_append.1 books.distinct).2.2 p lodged p (by simpa using stranded) rfl

/-- **A scratch directory is there as long as somebody needs it.** -/
theorem hasScratch_iff (furnished : w.Furnished) (tidy : w.machine.tool.Tidy)
    (reached : (first w).after (events ++ [.reclaim]) = ⟨s, none⟩)
    (finished : ∀ t ∈ s.tasks, t.state.isFinished = true)
    (bound : s.workshop.machine.attempts.length ≤ UInt64.size) {number : Nat} {host : Host}
    (found : w.hosts[number]? = some host) :
    s.workshop.machine.hasScratch host.bench.scratch = true ↔
      s.holds number = true ∨ ∃ file, s.Owns ⟨host.bench.scratch, file⟩ := by
  have books := books_of_finished furnished tidy reached finished bound
  have hosts := (steady_after furnished (events ++ [.reclaim])).hosts
  rw [reached] at hosts
  have own (p : Place) := owns_iff furnished tidy reached bound (p := p)
  constructor
  · intro there
    have needed : s.needsScratch number host = true := by
      have reclaimed := of_reclaim reached
      rw [reclaimed] at hosts there ⊢
      let before := ((first w).after events).session.dropTasks.releaseInstances
      have found' : before.workshop.hosts[number]? = some host := hosts.symm ▸ found
      have needed : before.needsScratch number host = true :=
        Session.needsScratch_of_hasScratch found' there
      exact needed
    simp only [Session.needsScratch, Bool.or_eq_true] at needed
    rcases needed with (held | occupied) | unfinished
    · exact .inl held
    · obtain ⟨r, resident, same⟩ := List.any_eq_true.1 occupied
      refine .inr ⟨r.file, (own _).2 (List.mem_map.2 ⟨r, resident, ?_⟩)⟩
      rw [Resident.place, beq_iff_eq.1 same]
    · obtain ⟨t, member, going⟩ := List.any_eq_true.1 unfinished
      simp [finished t member] at going
  · rintro (held | ⟨file, owned⟩)
    · exact books.rooms _ (Session.mem_rooms.2 ⟨number, host, hosts ▸ found, held, rfl⟩)
    · obtain ⟨product, there, -⟩ := (books.entry _).lodged ((own _).1 owned)
      exact Machine.hasScratch_of_at? there

/-- **Which libraries are there.** For every tidy compiler and every course of events, once the
background requests are finished and what is not needed was let go of: each handle has its library;
a scratch directory is there just in case its host is held or a handle has its library in it; and
the files in it are the libraries of handles, and those that were left behind. They are the
libraries of handles alone just in case none was left behind. -/
theorem libraries_exact (furnished : w.Furnished) (tidy : w.machine.tool.Tidy)
    (reached : (first w).after (events ++ [.reclaim]) = ⟨s, none⟩)
    (finished : ∀ t ∈ s.tasks, t.state.isFinished = true)
    (bound : s.workshop.machine.attempts.length ≤ UInt64.size) :
    (∀ handle ∈ s.handles, handle ≠ .null → ∃ p product,
      s.workshop.LibraryAt handle p ∧ s.workshop.machine.at? p = some product) ∧
    ∀ number host, w.hosts[number]? = some host →
      (s.workshop.machine.hasScratch host.bench.scratch = true ↔
        s.holds number = true ∨ ∃ file, s.Owns ⟨host.bench.scratch, file⟩) ∧
      ∀ files, s.workshop.machine.fileNames host.bench.scratch = some files →
        files.Nodup ∧
        (∀ file, file ∈ files ↔ s.Owns ⟨host.bench.scratch, file⟩ ∨
          ⟨host.bench.scratch, file⟩ ∈ (first w).stranded events) ∧
        ((∀ file, file ∈ files ↔ s.Owns ⟨host.bench.scratch, file⟩) ↔
          ∀ file, ⟨host.bench.scratch, file⟩ ∉ (first w).stranded events) := by
  have books := books_of_finished furnished tidy reached finished bound
  refine ⟨fun handle held some => ?_, fun number host found => ⟨?_, fun files listed => ?_⟩⟩
  · have numbered := numbered_after w (events ++ [.reclaim])
    have tenanted := tenanted_after furnished tidy (events ++ [.reclaim])
      (by rw [reached]; exact bound)
    rw [reached] at numbered tenanted
    obtain none | offered := offers_of_mem_handles numbered held
    · exact absurd none some
    · have served := tenanted.served handle offered
      cases handle with
      | null => exact absurd rfl some
      | compiled number unit =>
        obtain ⟨names, scratch, rfl, member⟩ := served
        have library : s.workshop.LibraryAt (.compiled number names.qualified)
            ⟨scratch, Settings.libraryFile names⟩ := ⟨number, names, rfl, rfl, member⟩
        have lodged := (owns_iff furnished tidy reached bound).1 ⟨_, held, library⟩
        obtain ⟨product, there, -⟩ := (books.entry _).lodged lodged
        exact ⟨_, product, library, there⟩
  · exact hasScratch_iff furnished tidy reached finished bound found
  · have there : s.workshop.machine.hasScratch host.bench.scratch = true := by
      rw [← Machine.fileNames_isSome, listed]
      rfl
    have mem (file : String) : file ∈ files ↔ s.Owns ⟨host.bench.scratch, file⟩ ∨
        ⟨host.bench.scratch, file⟩ ∈ (first w).stranded events := by
      rw [Machine.mem_of_fileNames (p := ⟨host.bench.scratch, file⟩) listed]
      exact at?_isSome_iff furnished tidy reached finished bound there
    refine ⟨Machine.nodup_of_fileNames books.neat listed, mem, fun alone file stranded => ?_,
      fun unstranded file => ?_⟩
    · have owned := (alone file).1 ((mem file).2 (.inr stranded))
      exact not_owns_of_stranded furnished tidy reached finished bound stranded owned
    · rw [mem, or_iff_left (unstranded file)]

/-- A compiler that always succeeds, and takes more time for the second call and those after it. -/
def unhurried (earlier : List Attempt) (_ : Call) : Response :=
  let library : Library := ⟨fun _ => true, interfaceVersion, true, fun _ x => x⟩
  let elapsed := if earlier.isEmpty then 100 else 330
  .started (.ended ⟨.exited 0, [], some (.library library), elapsed⟩) none

theorem tidy_unhurried (retries : UInt32) :
    (Workshop.bare unhurried retries).machine.tool.Tidy := by
  intro earlier call
  refine ⟨rfl, fun run product ended left => ?_⟩
  obtain rfl := Course.ended.inj ended
  obtain rfl := Option.some.inj left
  exact ⟨rfl, rfl⟩

/-- A copy of a handle keeps the library and its scratch directory when the host is let go of. -/
theorem libraries_of_copy :
    let events : List Event := [.ask ⟨0, "x"⟩, .pursue, .pursue, .answer (some "f"), .copy "f" "g",
      .dropHost 0, .clear "f"]
    ∃ s files, (first (.bare unhurried 0)).after (events ++ [.reclaim]) = ⟨s, none⟩ ∧
      s.holds 0 = false ∧ s.workshop.machine.fileNames 0 = some files ∧
      files = ["libfx_0_0000000000000000.so"] ∧ ∀ file, file ∈ files ↔ s.Owns ⟨0, file⟩ := by
  intro events
  let m := (first (.bare unhurried 0)).after (events ++ [.reclaim])
  have idle : m.awaited.isNone = true := by decide +kernel
  have reached : m = ⟨m.session, none⟩ := eq_of_idle (Option.isNone_iff_eq_none.1 idle)
  have finished : m.session.tasks.all (fun t => t.state.isFinished) = true := by decide +kernel
  have bound : m.session.workshop.machine.attempts.length ≤ UInt64.size := by decide +kernel
  have listed : m.session.workshop.machine.fileNames 0 = some ["libfx_0_0000000000000000.so"] := by
    decide +kernel
  have unheld : m.session.holds 0 = false := by decide +kernel
  have unstranded : (first (.bare unhurried 0)).stranded events = [] := by decide +kernel
  have exact' := libraries_exact (Workshop.furnished_bare unhurried 0) (tidy_unhurried 0) reached
    (List.all_eq_true.1 finished) bound
  obtain ⟨-, -, alone⟩ := (exact'.2 0 (Host.bare 0) rfl).2 _ listed
  exact ⟨m.session, _, reached, unheld, listed, rfl, alone.2 (by simp [unstranded])⟩

/-- **A library of nobody.** A request is cancelled after its run of the compiler has ended, and
before it has gone on. Its library stays, though nobody has a handle on it or will ever have one. -/
theorem library_of_nobody :
    let w : Workshop := .bare unhurried 0
    let s := (({ workshop := w } : Session).run
      [.submit "aaa + x" "a", .awaitStarted 1, .evaluate ⟨0, "bbb + x"⟩ false (some "s"), .cancel,
        .outcome "a" none]).2
    w.Furnished ∧ w.machine.tool.Tidy ∧ s.tasks = [] ∧
      ∃ files, s.workshop.machine.fileNames 0 = some files ∧
        ∃ file ∈ files, ¬s.Owns ⟨0, file⟩ := by
  intro w s
  have listed : s.workshop.machine.fileNames 0 =
      some ["libfx_1_0000000000000000.so", "libfx_0_0000000000000000.so"] := by decide +kernel
  have tenants : s.workshop.tenants = [(0, ⟨0, "libfx_1_0000000000000000.so"⟩)] := by decide +kernel
  have unfinished : s.tasks.isEmpty = true := by decide +kernel
  refine ⟨Workshop.furnished_bare unhurried 0, tidy_unhurried 0, List.isEmpty_iff.1 unfinished, _,
    listed, "libfx_0_0000000000000000.so", by simp, ?_⟩
  rintro ⟨handle, -, number, names, -, -, member⟩
  rw [tenants] at member
  simp at member

end Moment

end Plotter
