import Plotter.Proofs.Request.Residue

/-!
# Runs that have landed

A run of the compiler leaves what it leaves when it is over, whether the request that waits for it
goes on or not. Once this is there, it makes no difference if the request is given up: nothing is
put anywhere that is not there already. Nor does it if the run is not over, as long as a run that is
killed leaves nothing.

## What is proved

* `Bench.Landed.at?_drop`, `Bench.Landed.at?_land`: what has landed stays as it is.
* `Workshop.LandedAt.at?_land`: so does what is at a place when the run of a request lands.
* `Bench.landed_land`: a run that lands has landed.
-/

namespace Plotter

namespace Response

/-- A run that is killed leaves nothing, and what is left by one that succeeds can be removed. -/
def Removable : Response → Prop
  | .unstarted _ => True
  | .started course killed =>
    killed = none ∧ ∀ run product, course = .ended run → run.status.success = true →
      run.left = some product → product.isRegular = true

end Response

/-- A compiler that leaves nothing when it is killed, and nothing when it succeeds that cannot be
removed. -/
def Tool.Removable (t : Tool) : Prop := ∀ earlier call, (t.respond earlier call).Removable

/-- A compiler each of whose runs ends, or is killed because it does not take its source. -/
def Tool.Ends (t : Tool) : Prop :=
  ∀ earlier call killed, t.respond earlier call ≠ .started .endless killed

/-- What holds of every answer of the compiler, and if it cannot be started, holds of whatever
becomes of a call. -/
theorem Machine.of_respond {m : Machine} {P : Response → Prop}
    (unstarted : ∀ fault, P (.unstarted fault))
    (answers : ∀ earlier call, P (m.tool.respond earlier call)) (program : String) (call : Call) :
    P (m.respond program call) := by
  unfold respond
  split
  · exact unstarted _
  · split
    · exact unstarted _
    · exact answers m.attempts call

namespace Compilation

variable {c : Compilation}

/-- Nothing stays of a run that succeeded, if nothing is made of it. -/
theorem residue_of_succeeds (removable : c.response.Removable) (success : c.response.Succeeds) :
    c.residue = none := by
  unfold residue
  cases response : c.response with
  | unstarted fault => rfl
  | started course killed =>
    rw [response] at removable success
    cases course with
    | endless => rfl
    | deaf fault => exact success.elim
    | ended run =>
      have succeeded : run.status.success = true := success
      simp only [succeeded, if_true]
      rw [Option.filter_eq_none_iff]
      intro product left
      simp [removable.2 run product rfl succeeded left]

/-- A run that is dropped leaves nothing, unless it is over. -/
theorem leftAt_cases (removable : c.response.Removable) (time : Nat) :
    c.leftAt time = none ∨ ∃ run killed, c.response = .started (.ended run) killed ∧
      c.isOver time = true ∧ c.leftAt time = run.left := by
  unfold leftAt
  cases response : c.response with
  | unstarted fault => exact .inl rfl
  | started course killed =>
    rw [response] at removable
    obtain ⟨rfl, -⟩ := removable
    cases course with
    | endless => exact .inl rfl
    | deaf fault => exact .inl rfl
    | ended run =>
      dsimp only
      split
      · rename_i ended
        exact .inr ⟨run, none, rfl, ended, rfl⟩
      · exact .inl rfl

end Compilation

namespace Bench

variable {b : Bench} {m m' : Machine} {c : Compilation}

/-- What a run has left is at its place if it is over. -/
def Landed (b : Bench) (m : Machine) (c : Compilation) : Prop :=
  ∀ run killed, c.response = .started (.ended run) killed → c.isOver m.clock = true →
    m.at? (b.placeOf c.unit) = if m.hasScratch b.scratch then run.left else none

/-- To leave at a place what is there changes nothing. -/
theorem Landed.at?_leave (landed : b.Landed m c) {run : Run} {killed : Option Product}
    (response : c.response = .started (.ended run) killed) (ended : c.isOver m.clock = true)
    (p : Place) : (b.leave m c.unit run.left).at? p = m.at? p := by
  by_cases own : p = b.placeOf c.unit
  · subst own
    have there := landed run killed response ended
    refine (Machine.at?_leave (p := b.placeOf c.unit) ?_).trans there.symm
    rw [there]
    split
    · exact .inr rfl
    · exact .inl rfl
  · exact (m.onlyAt_leave (b.placeOf c.unit) run.left).elsewhere p own

/-- **To drop a run that has landed changes nothing.** -/
theorem Landed.at?_drop (landed : b.Landed m c) (removable : c.response.Removable) (p : Place) :
    (b.drop m c).at? p = m.at? p := by
  unfold drop
  rcases c.leftAt_cases removable m.clock with nothing | ⟨run, killed, response, ended, left⟩
  · rw [nothing]
    rfl
  · rw [left]
    exact landed.at?_leave response ended p

theorem Landed.at?_land (landed : b.Landed m c) (p : Place) :
    (b.land m c).at? p = m.at? p := by
  unfold land
  split
  · rename_i run killed response
    split
    · rename_i ended
      exact landed.at?_leave response ended p
    · rfl
  · rfl

/-- What has landed has landed still, as long as the run was over already if it is now. -/
theorem Landed.later (landed : b.Landed m c)
    (early : c.isOver m'.clock = true → c.isOver m.clock = true)
    (rooms : m'.hasScratch b.scratch = m.hasScratch b.scratch)
    (same : m'.at? (b.placeOf c.unit) = m.at? (b.placeOf c.unit)) : b.Landed m' c := by
  intro run killed response ended
  rw [same, rooms]
  exact landed run killed response (early ended)

/-- A run that is not over has landed, and so has one that leaves nothing, where nothing is. -/
theorem landed_of_vacant (nothing : c.leftAt m.clock = none)
    (vacant : m.at? (b.placeOf c.unit) = none) : b.Landed m c := by
  intro run killed response ended
  have left : run.left = none := by
    simpa only [Compilation.leftAt, response, ended, if_true] using nothing
  rw [vacant, left, ite_self]

/-- A run that lands has landed. -/
theorem landed_land (own : m.at? (b.placeOf c.unit) = none ∨
    m.at? (b.placeOf c.unit) = Job.left ⟨b.scratch, c, true⟩) : b.Landed (b.land m c) c := by
  intro run killed response ended
  rw [b.clock_land] at ended
  have left : Job.left ⟨b.scratch, c, true⟩ = run.left := by simp only [Job.left, response]
  rw [left] at own
  have landed : b.land m c = b.leave m c.unit run.left := by
    simp only [land, response, ended, if_true]
  have rooms : (b.leave m c.unit run.left).hasScratch b.scratch = m.hasScratch b.scratch :=
    (m.onlyAt_leave (b.placeOf c.unit) run.left).scratches b.scratch
  rw [landed, rooms]
  exact Machine.at?_leave (p := b.placeOf c.unit) own

end Bench

namespace Workshop

variable {w w' : Workshop} {r : Request} {phase : Phase} {p : Place}

/-- What the run of a request has left is at its place `p`, if that is its place. -/
def LandedAt (p : Place) (w : Workshop) (r : Request) (phase : Phase) : Prop :=
  ∀ host retried c, w.hosts[r.host]? = some host → phase = .compiling retried c →
    host.bench.placeOf c.unit = p → host.bench.Landed w.machine c

theorem LandedAt.congr (landed : w.LandedAt p r phase) (hosts : w'.hosts = w.hosts)
    (clock : w'.machine.clock = w.machine.clock) (rooms : w.SameRooms w')
    (same : w'.machine.at? p = w.machine.at? p) : w'.LandedAt p r phase := by
  intro host retried c found compiling own
  rw [hosts] at found
  subst own
  have here := landed host retried c found compiling rfl
  exact here.later (fun ended => clock ▸ ended) (rooms _) same

theorem LandedAt.at?_land (landed : w.LandedAt p r phase) :
    (w.land r phase).machine.at? p = w.machine.at? p := by
  unfold land
  split
  · rename_i host retried c found
    by_cases own : host.bench.placeOf c.unit = p
    · exact (landed host retried c found rfl own).at?_land p
    · exact (host.bench.onlyAt_land w.machine c true).elsewhere p (Ne.symm own)
  · rfl

theorem clock_land (w : Workshop) (r : Request) (phase : Phase) :
    (w.land r phase).machine.clock = w.machine.clock := by
  unfold land
  split
  · exact Bench.clock_land ..
  · rfl

end Workshop

/-! ### Runs that begin -/

/-- If a request waits for a run, this leaves nothing that cannot be removed. -/
def Phase.Removable (phase : Phase) : Prop :=
  ∀ retried c, phase = .compiling retried c → c.response.Removable

namespace Workshop

variable {w : Workshop} {r : Request} {host : Host} {phase : Phase}

/-- **What holds of whatever becomes of a call** holds of the run for which a request waits after a
step, if it held of the one before. -/
theorem of_response_advance {P : Response → Prop} (unstarted : ∀ fault, P (.unstarted fault))
    (answers : ∀ earlier call, P (w.machine.tool.respond earlier call)) (ready : w.Ready)
    (before : ∀ retried c, phase = .compiling retried c → P c.response) {counter : UInt32}
    {c : Compilation} (begun : (w.advance r phase).1 = .compiling counter c) : P c.response := by
  cases moves : phase.moves with
  | false =>
    rw [w.advance_of_stuck r moves] at begun
    exact before counter c begun
  | true =>
    cases found : w.hosts[r.host]? with
    | none =>
      simp only [advance, found] at begun
      exact before counter c begun
    | some host =>
      obtain ⟨v, template, quiet, kept, rfl, -⟩ := begun_advance ready found moves begun
      have same : ∀ earlier call, P (v.machine.tool.respond earlier call) :=
        quiet.machine.tool.symm ▸ answers
      rw [(commence_sound kept counter).answered]
      exact Machine.of_respond unstarted same _ _

/-- A run that begins in a step was not over before it. -/
theorem late_advance (ready : w.Ready) (found : w.hosts[r.host]? = some host)
    (moves : phase.moves = true) {counter : UInt32} {c : Compilation}
    (begun : (w.advance r phase).1 = .compiling counter c) {time : Nat}
    (early : time ≤ w.machine.clock) : c.isOver time = false := by
  obtain ⟨v, template, quiet, -, rfl, -⟩ := begun_advance ready found moves begun
  have later : time < (v.commence r host template counter).compilation.began :=
    Nat.lt_succ_of_le (Nat.le_trans early quiet.machine.clock)
  generalize (v.commence r host template counter).compilation = c at later
  rw [Compilation.isOver, Option.any_eq_false]
  intro due ends
  unfold Compilation.due? at ends
  split at ends
  · obtain rfl := Option.some.inj ends
    exact decide_eq_false (by omega)
  · obtain ⟨elapsed, -, rfl⟩ := Option.map_eq_some_iff.1 ends
    exact decide_eq_false (by omega)

end Workshop

end Plotter
