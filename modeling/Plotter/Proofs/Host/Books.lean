import Mathlib.Data.List.Nodup
import Plotter.Proofs.Host.Furnished
import Plotter.Proofs.Machine.Scratch
import Plotter.Proofs.Naming

/-!
# The books of a workshop

What is in the scratch directories is accounted for in books. A place belongs to an instance whose
library is there, to a run of the compiler that nobody has taken up yet, or to a run that was let
go of after it had left its library; otherwise nothing is there. `Register` is a list of the places
of each kind, and `Machine.Books` says that a register is right: no place belongs to two things,
and what is at each is what its owner has there (`Machine.Entry`).

The compiler is one that leaves nothing when it fails or is killed, and regular files otherwise
(`Tool.Tidy`).

## What is proved

Each thing that happens to a place has its lemma: a run begins (`Books.begin`), comes to nothing
(`Books.vacate`), is let go of (`Books.strand`), or becomes an instance (`Books.lodge`); the
library of an instance is removed (`Books.discard`), and so is a whole scratch directory
(`Books.closeScratch`).
-/

namespace Plotter

/-! ### Tidy compilers -/

/-- A run that fails or is killed leaves nothing, and one that succeeds leaves nothing or a regular
file. -/
def Response.Tidy : Response → Prop
  | .unstarted _ => True
  | .started course killed =>
    killed = none ∧ ∀ run product, course = .ended run → run.left = some product →
      run.status.success = true ∧ product.isRegular = true

/-- A compiler whose runs are tidy. -/
def Tool.Tidy (t : Tool) : Prop := ∀ earlier call, (t.respond earlier call).Tidy

/-- Every call of a tidy compiler has a tidy response. -/
theorem Machine.tidy_respond {m : Machine} (tidy : m.tool.Tidy) (program : String) (call : Call) :
    (m.respond program call).Tidy := by
  unfold respond
  split
  · trivial
  · split
    · trivial
    · exact tidy m.attempts call

namespace Compilation

variable {c : Compilation} {product : Product}

/-- What a tidy run has left at a time is regular, and it succeeded in the meantime. -/
theorem of_leftAt (tidy : c.response.Tidy) {time : Nat} (left : c.leftAt time = some product) :
    ∃ run killed, c.response = .started (.ended run) killed ∧ c.isOver time = true ∧
      run.left = some product ∧ run.status.success = true ∧ product.isRegular = true := by
  unfold leftAt at left
  cases response : c.response with
  | unstarted fault => simp [response] at left
  | started course killed =>
    rw [response] at tidy left
    obtain ⟨rfl, kept⟩ := tidy
    cases course with
    | endless => simp at left
    | deaf fault => simp at left
    | ended run =>
      simp only at left
      split at left
      · rename_i ended
        exact ⟨run, none, rfl, ended, left, kept run product rfl left⟩
      · simp at left

/-- A run that is over is so from then on. -/
theorem isOver_mono {time later : Nat} (le : time ≤ later) (ended : c.isOver time = true) :
    c.isOver later = true := by
  simp only [isOver, Option.any_eq_true, decide_eq_true_eq] at ended ⊢
  obtain ⟨due, own, early⟩ := ended
  exact ⟨due, own, Nat.le_trans early le⟩

/-- What a tidy run has left is there from then on. -/
theorem leftAt_mono (tidy : c.response.Tidy) {time later : Nat} (le : time ≤ later)
    (left : c.leftAt time = some product) : c.leftAt later = some product := by
  obtain ⟨run, killed, response, ended, left, -, -⟩ := of_leftAt tidy left
  simp [leftAt, response, isOver_mono le ended, left]

end Compilation

/-! ### Registers -/

/-- A run of the compiler that nobody has taken up yet. -/
structure Job where
  /-- The number of the scratch directory into which it puts its library. -/
  scratch : Nat
  compilation : Compilation
  /-- Whether what it leaves is there once it is over, even if nobody takes it up. -/
  lands : Bool

/-- Where a run puts its library. -/
def Job.place (j : Job) : Place := ⟨j.scratch, Settings.libraryFile j.compilation.unit.names⟩

/-- Where an instance has its library. -/
def Resident.place (r : Resident) : Place := ⟨r.scratch, r.file⟩

/-- What the places in scratch directories belong to. -/
structure Register where
  /-- The numbers of the scratch directories that must be there. -/
  rooms : List Nat
  /-- The places of the libraries of instances. -/
  lodged : List Place
  /-- The runs that nobody has taken up. -/
  jobs : List Job
  /-- The places of the libraries that runs had left when they were let go of. -/
  stranded : List Place

/-- All places that belong to something. -/
def Register.places (g : Register) : List Place := g.lodged ++ (g.jobs.map Job.place ++ g.stranded)

namespace Machine

/-- What is at the place of a run that nobody has taken up: nothing, or what it has left. -/
def Awaits (m : Machine) (j : Job) : Prop :=
  m.at? j.place = none ∨ j.lands = true ∧ m.at? j.place = j.compilation.leftAt m.clock

/-- What is at a place is what the register says. -/
structure Entry (m : Machine) (g : Register) (p : Place) : Prop where
  lodged : p ∈ g.lodged → ∃ product, m.at? p = some product ∧ product.isRegular = true
  awaited : ∀ j ∈ g.jobs, j.place = p → m.Awaits j
  stranded : p ∈ g.stranded → m.hasScratch p.scratch = true → (m.at? p).isSome = true
  free : p ∉ g.places → m.at? p = none

/-- A register is right. -/
structure Books (m : Machine) (names : NameSource) (g : Register) : Prop where
  issued : names.issued = UInt64.ofNat m.attempts.length
  /-- No place belongs to two things. -/
  distinct : g.places.Nodup
  /-- Each file has the name of a unit for which there was an attempt. -/
  named : ∀ p ∈ g.places, ∃ serial < m.attempts.length, p.file = names.fileAt (.ofNat serial)
  tidy : ∀ j ∈ g.jobs, j.compilation.response.Tidy
  neat : m.Neat
  rooms : ∀ number ∈ g.rooms, m.hasScratch number = true
  entry : ∀ p, m.Entry g p

variable {m m' : Machine} {names : NameSource} {g g' : Register} {p : Place} {j : Job}
  {rooms : List Nat} {lodged stranded : List Place} {jobs : List Job}

/-! ### Entries that stay -/

/-- Two registers agree on a place. -/
structure Agree (g g' : Register) (p : Place) : Prop where
  lodged : p ∈ g'.lodged ↔ p ∈ g.lodged
  jobs : ∀ j, j.place = p → (j ∈ g'.jobs ↔ j ∈ g.jobs)
  stranded : p ∈ g'.stranded ↔ p ∈ g.stranded

theorem Agree.places (h : Agree g g' p) : p ∈ g'.places ↔ p ∈ g.places := by
  have jobs : p ∈ g'.jobs.map Job.place ↔ p ∈ g.jobs.map Job.place := by
    constructor
    · intro member
      obtain ⟨j, member, own⟩ := List.mem_map.1 member
      exact List.mem_map.2 ⟨j, (h.jobs j own).1 member, own⟩
    · intro member
      obtain ⟨j, member, own⟩ := List.mem_map.1 member
      exact List.mem_map.2 ⟨j, (h.jobs j own).2 member, own⟩
  simp only [Register.places, List.mem_append, h.lodged, jobs, h.stranded]

/-- What is at the place of a run stays right while nobody touches it. -/
theorem Awaits.later (h : m.Awaits j) (tidy : j.compilation.response.Tidy)
    (same : m'.at? j.place = m.at? j.place) (clock : m.clock ≤ m'.clock) : m'.Awaits j := by
  unfold Awaits at h ⊢
  rw [same]
  rcases h with nothing | ⟨lands, left⟩
  · exact .inl nothing
  · cases there : m.at? j.place with
    | none => exact .inl rfl
    | some product =>
      rw [there] at left
      exact .inr ⟨lands, (Compilation.leftAt_mono tidy clock left.symm).symm⟩

theorem Entry.later (h : m.Entry g p) (tidy : ∀ j ∈ g.jobs, j.compilation.response.Tidy)
    (agree : Agree g g' p) (same : m'.at? p = m.at? p)
    (scratches : m'.hasScratch p.scratch = m.hasScratch p.scratch) (clock : m.clock ≤ m'.clock) :
    m'.Entry g' p where
  lodged := by
    rw [agree.lodged, same]
    exact h.lodged
  awaited := by
    intro j member own
    have old := (agree.jobs j own).1 member
    exact (h.awaited j old own).later (tidy j old) (by rw [own, same]) clock
  stranded := by
    rw [agree.stranded, scratches, same]
    exact h.stranded
  free := by
    rw [agree.places, same]
    exact h.free

namespace Books

/-- Nothing changes but what is at one place, and to whom it belongs. -/
theorem change (h : m.Books names g) (p : Place) (only : OnlyAt p m m') (quiet : m.Quiet m')
    (rooms : g'.rooms ⊆ g.rooms) (places : g'.places.Subperm g.places) (jobs : g'.jobs ⊆ g.jobs)
    (elsewhere : ∀ q, q ≠ p → Agree g g' q) (here : m'.Entry g' p) : m'.Books names g' where
  issued := by
    rw [quiet.attempts]
    exact h.issued
  distinct := by
    obtain ⟨l, perm, sub⟩ := places
    exact perm.nodup (sub.nodup h.distinct)
  named := by
    intro q member
    rw [quiet.attempts]
    exact h.named q (places.subset member)
  tidy := fun j member => h.tidy j (jobs member)
  neat := only.neat h.neat
  rooms := by
    intro number member
    rw [only.scratches]
    exact h.rooms number (rooms member)
  entry := by
    intro q
    by_cases own : q = p
    · exact own ▸ here
    · exact (h.entry q).later h.tidy (elsewhere q own) (only.elsewhere q own)
        (only.scratches q.scratch) quiet.clock

/-! ### One place -/

/-- The place of a run belongs to nothing else. -/
theorem not_mem_of_job (h : m.Books names ⟨rooms, lodged, j :: jobs, stranded⟩) :
    j.place ∉ Register.places ⟨rooms, lodged, jobs, stranded⟩ :=
  (List.nodup_cons.1 (List.perm_middle.nodup h.distinct)).1

/-- The place of an instance's library belongs to nothing else. -/
theorem not_mem_of_lodged (h : m.Books names ⟨rooms, p :: lodged, jobs, stranded⟩) :
    p ∉ Register.places ⟨rooms, lodged, jobs, stranded⟩ :=
  (List.nodup_cons.1 h.distinct).1

/-- Registers that differ in a run agree off its place. -/
theorem agree_of_job {q : Place} (other : q ≠ j.place) :
    Agree ⟨rooms, lodged, j :: jobs, stranded⟩ ⟨rooms, lodged, jobs, stranded⟩ q where
  lodged := Iff.rfl
  jobs := by
    rintro k rfl
    have unlike : k ≠ j := fun same => other (congrArg Job.place same)
    simp [unlike]
  stranded := Iff.rfl

/-- Nothing is at a place that belongs to nothing. -/
theorem entry_of_vacant (unowned : p ∉ g.places) (nothing : m.at? p = none) : m.Entry g p := by
  simp only [Register.places, List.mem_append, not_or] at unowned
  obtain ⟨unlodged, jobless, unstranded⟩ := unowned
  refine ⟨fun lodged => absurd lodged unlodged, fun j member own => ?_,
    fun stranded => absurd stranded unstranded, fun _ => nothing⟩
  exact absurd (List.mem_map.2 ⟨j, member, own⟩) jobless

/-- A run comes to nothing. -/
theorem vacate (h : m.Books names ⟨rooms, lodged, j :: jobs, stranded⟩)
    (only : OnlyAt j.place m m') (quiet : m.Quiet m') (nothing : m'.at? j.place = none) :
    m'.Books names ⟨rooms, lodged, jobs, stranded⟩ := by
  refine h.change j.place only quiet (List.Subset.refl _) ?_ (List.subset_cons_self j jobs)
    (fun q other => agree_of_job other) (entry_of_vacant h.not_mem_of_job nothing)
  exact (List.Sublist.append_left (List.sublist_cons_self ..) _).subperm

/-- A run becomes an instance. -/
theorem lodge (h : m.Books names ⟨rooms, lodged, j :: jobs, stranded⟩)
    (only : OnlyAt j.place m m') (quiet : m.Quiet m') {product : Product}
    (there : m'.at? j.place = some product) (regular : product.isRegular = true) :
    m'.Books names ⟨rooms, lodged ++ [j.place], jobs, stranded⟩ := by
  have unowned := h.not_mem_of_job
  simp only [Register.places, List.mem_append, not_or] at unowned
  obtain ⟨-, jobless, unstranded⟩ := unowned
  refine h.change j.place only quiet (List.Subset.refl _) ?_ (List.subset_cons_self j jobs)
    (fun q other => ?_) ?_
  · refine List.Perm.subperm ?_
    simp [Register.places]
  · have agree : Agree ⟨rooms, lodged, j :: jobs, stranded⟩ ⟨rooms, lodged, jobs, stranded⟩ q :=
      agree_of_job other
    exact ⟨by simp [other], agree.jobs, agree.stranded⟩
  · refine ⟨fun _ => ⟨product, there, regular⟩, fun k member own => ?_,
      fun stranded => absurd stranded unstranded, fun free => ?_⟩
    · exact absurd (List.mem_map.2 ⟨k, member, own⟩) jobless
    · exact absurd (by simp [Register.places]) free

/-- A run is let go of after it has left its library. -/
theorem strand (h : m.Books names ⟨rooms, lodged, j :: jobs, stranded⟩)
    (only : OnlyAt j.place m m') (quiet : m.Quiet m')
    (there : m'.hasScratch j.place.scratch = true → (m'.at? j.place).isSome = true) :
    m'.Books names ⟨rooms, lodged, jobs, j.place :: stranded⟩ := by
  have unowned := h.not_mem_of_job
  simp only [Register.places, List.mem_append, not_or] at unowned
  obtain ⟨unlodged, jobless, -⟩ := unowned
  refine h.change j.place only quiet (List.Subset.refl _) ?_ (List.subset_cons_self j jobs)
    (fun q other => ?_) ?_
  · exact (List.Perm.append_left lodged List.perm_middle).subperm
  · have agree : Agree ⟨rooms, lodged, j :: jobs, stranded⟩ ⟨rooms, lodged, jobs, stranded⟩ q :=
      agree_of_job other
    exact ⟨agree.lodged, agree.jobs, by simp [other]⟩
  · refine ⟨fun lodged => absurd lodged unlodged, fun k member own => ?_, fun _ => there,
      fun free => ?_⟩
    · exact absurd (List.mem_map.2 ⟨k, member, own⟩) jobless
    · exact absurd (by simp [Register.places]) free

/-- The library of an instance is removed. -/
theorem discard (h : m.Books names ⟨rooms, p :: lodged, jobs, stranded⟩) :
    (m.discard p.scratch p.file).Books names ⟨rooms, lodged, jobs, stranded⟩ := by
  obtain ⟨product, there, regular⟩ := (h.entry p).lodged (List.mem_cons_self ..)
  have nothing : (m.discard p.scratch p.file).at? p = none := by
    refine at?_discard fun product' found => ?_
    obtain rfl := Option.some.inj (there.symm.trans found)
    exact regular
  refine h.change p (m.onlyAt_discard p) (m.quiet_discard ..) (List.Subset.refl _) ?_
    (List.Subset.refl _) (fun q other => ⟨by simp [other], fun _ _ => Iff.rfl, Iff.rfl⟩)
    (entry_of_vacant h.not_mem_of_lodged nothing)
  exact (List.sublist_cons_self ..).subperm

/-- What a run has left is put in its place, and nobody takes it up. -/
theorem land (h : m.Books names ⟨rooms, lodged, j :: jobs, stranded⟩) (lands : j.lands = true)
    (only : OnlyAt j.place m m') (quiet : m.Quiet m')
    (left : m'.at? j.place = none ∨ m'.at? j.place = j.compilation.leftAt m'.clock) :
    m'.Books names ⟨rooms, lodged, j :: jobs, stranded⟩ := by
  have unowned := h.not_mem_of_job
  simp only [Register.places, List.mem_append, not_or] at unowned
  obtain ⟨unlodged, jobless, unstranded⟩ := unowned
  refine h.change j.place only quiet (List.Subset.refl _) (List.Subperm.refl _)
    (List.Subset.refl _) (fun q _ => ⟨Iff.rfl, fun _ _ => Iff.rfl, Iff.rfl⟩) ?_
  refine ⟨fun lodged => absurd lodged unlodged, fun k member own => ?_,
    fun stranded => absurd stranded unstranded, fun free => ?_⟩
  · rcases List.mem_cons.1 member with rfl | old
    · exact left.imp_right fun left => ⟨lands, left⟩
    · exact absurd (List.mem_map.2 ⟨k, old, own⟩) jobless
  · exact absurd (by simp [Register.places]) free

/-! ### No place, or many -/

/-- Nothing changes in the scratch directories, and every place belongs to what it belonged to. -/
theorem same (h : m.Books names g) (scratches : m'.scratches = m.scratches) (quiet : m.Quiet m')
    (rooms : g'.rooms ⊆ g.rooms) (lodged : g'.lodged.Perm g.lodged) (jobs : g'.jobs.Perm g.jobs)
    (stranded : g'.stranded.Perm g.stranded) : m'.Books names g' := by
  have places : g'.places.Perm g.places :=
    lodged.append ((jobs.map Job.place).append stranded)
  have agree (q : Place) : Agree g g' q :=
    ⟨lodged.mem_iff, fun _ _ => jobs.mem_iff, stranded.mem_iff⟩
  let p : Place := ⟨0, ""⟩
  refine h.change p (.of_scratches scratches) quiet rooms places.subperm jobs.subset
    (fun q _ => agree q) ?_
  exact (h.entry p).later h.tidy (agree p) (at?_congr scratches p)
    (hasScratch_congr scratches p.scratch) quiet.clock

/-- What a run has left is put in its place, whichever run it is. -/
theorem land_of_mem (h : m.Books names g) (member : j ∈ g.jobs) (lands : j.lands = true)
    (only : OnlyAt j.place m m') (quiet : m.Quiet m')
    (left : m'.at? j.place = none ∨ m'.at? j.place = j.compilation.leftAt m'.clock) :
    m'.Books names g := by
  obtain ⟨before, after, split⟩ := List.append_of_mem member
  have order : g.jobs.Perm (j :: (before ++ after)) := split ▸ List.perm_middle
  have first : m.Books names ⟨g.rooms, g.lodged, j :: (before ++ after), g.stranded⟩ :=
    h.same rfl (.refl m) (List.Subset.refl _) (.refl _) order.symm (.refl _)
  exact (first.land lands only quiet left).same rfl (.refl m') (List.Subset.refl _) (.refl _) order
    (.refl _)

/-- The names that come next have not been given to anything. -/
theorem not_mem_of_next (h : m.Books names g) (bound : m.attempts.length < UInt64.size)
    (own : p.file = names.fileAt names.issued) : p ∉ g.places := by
  intro member
  obtain ⟨serial, early, given⟩ := h.named p member
  have same := names.fileAt_injective (own.symm.trans given)
  rw [h.issued, ← UInt64.toNat_inj, UInt64.toNat_ofNat_of_lt' bound,
    UInt64.toNat_ofNat_of_lt' (Nat.lt_trans early bound)] at same
  exact absurd early (by simp [same])

/-- A run begins. -/
theorem begin (h : m.Books names ⟨rooms, lodged, jobs, stranded⟩) {attempt : Attempt}
    (scratches : m'.scratches = m.scratches) (called : m'.attempts = attempt :: m.attempts)
    (clock : m.clock ≤ m'.clock) (bound : m'.attempts.length ≤ UInt64.size)
    (own : j.place.file = names.fileAt names.issued) (tidy : j.compilation.response.Tidy) :
    m'.Books names.next.2 ⟨rooms, lodged, j :: jobs, stranded⟩ := by
  rw [called, List.length_cons] at bound
  have unowned := h.not_mem_of_next bound own
  have nothing : m'.at? j.place = none := by
    rw [at?_congr scratches]
    exact (h.entry j.place).free unowned
  have order : Register.places ⟨rooms, lodged, j :: jobs, stranded⟩ =
      lodged ++ j.place :: (jobs.map Job.place ++ stranded) := rfl
  refine ⟨?_, ?_, fun q member => ?_, fun k member => ?_, ?_, fun number member => ?_, fun q => ?_⟩
  · rw [called, List.length_cons, UInt64.ofNat_add, ← h.issued]
    rfl
  · rw [order, List.nodup_middle]
    exact List.nodup_cons.2 ⟨unowned, h.distinct⟩
  · rw [called, List.length_cons]
    rw [order, List.perm_middle.mem_iff, List.mem_cons] at member
    rcases member with rfl | old
    · exact ⟨m.attempts.length, Nat.lt_succ_self _, by rw [own, h.issued, NameSource.fileAt_next]⟩
    · obtain ⟨serial, early, given⟩ := h.named q old
      exact ⟨serial, Nat.lt_succ_of_lt early, given⟩
  · rcases List.mem_cons.1 member with rfl | old
    · exact tidy
    · exact h.tidy k old
  · exact (OnlyAt.of_scratches (p := j.place) scratches).neat h.neat
  · rw [hasScratch_congr scratches]
    exact h.rooms number member
  · by_cases here : q = j.place
    · subst here
      simp only [Register.places, List.mem_append, not_or] at unowned
      obtain ⟨unlodged, -, unstranded⟩ := unowned
      refine ⟨fun lodged => absurd lodged unlodged, fun k member own => .inl ?_,
        fun stranded => absurd stranded unstranded, fun _ => nothing⟩
      rw [own]
      exact nothing
    · have agree : Agree ⟨rooms, lodged, j :: jobs, stranded⟩ ⟨rooms, lodged, jobs, stranded⟩ q :=
        agree_of_job here
      refine (h.entry q).later h.tidy ?_ (at?_congr scratches q)
        (hasScratch_congr scratches q.scratch) clock
      exact ⟨agree.lodged.symm, fun k own => (agree.jobs k own).symm, agree.stranded.symm⟩

/-- A scratch directory is removed in which no instance has its library. -/
theorem closeScratch (h : m.Books names g) {number : Nat} (unneeded : number ∉ g.rooms)
    (unoccupied : ∀ p ∈ g.lodged, p.scratch ≠ number) : (m.closeScratch number).Books names g := by
  refine ⟨h.issued, h.distinct, h.named, h.tidy, h.neat.closeScratch number,
    fun k member => ?_, fun p => ⟨fun lodged => ?_, fun j member own => ?_, fun stranded => ?_,
      fun free => ?_⟩⟩
  · have other : k ≠ number := fun same => unneeded (same ▸ member)
    simpa [hasScratch_closeScratch, other] using h.rooms k member
  · rw [at?_closeScratch, if_neg (unoccupied p lodged)]
    exact (h.entry p).lodged lodged
  · unfold Awaits
    rw [own, at?_closeScratch]
    split
    · exact .inl rfl
    · rw [← own]
      exact (h.entry p).awaited j member own
  · rw [hasScratch_closeScratch, at?_closeScratch]
    intro there
    rw [Bool.and_eq_true, bne_iff_ne] at there
    rw [if_neg there.1]
    exact (h.entry p).stranded stranded there.2
  · rw [at?_closeScratch, (h.entry p).free free]
    split <;> rfl

end Books

end Machine

end Plotter
