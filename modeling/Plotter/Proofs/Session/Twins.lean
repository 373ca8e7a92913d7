import Plotter.Proofs.Request.Twins
import Plotter.Proofs.Session.Bursts
import Plotter.Proofs.Session.Kinship

/-!
# One expression on two machines

Two users set up a host in the same way, each on a machine of its own, and give it one expression. The
machines have the same files and compilers that say the same of themselves (`Machine.Peers`). If the
compilers can be started from either scratch directory alike and answer alike, the two answers to the
expression are the same but for the digits of chance, the numbers of instances and the times.

## What is proved

* `Host.twins_setUp`: hosts that are set up in the same way on peers are alike.
* `Session.evaluate_twins`: the answers of the two are alike.
-/

namespace Plotter

open Workshop (Twins)

variable {P : UInt64 → UInt64 → Prop}

/-- Answers that are the same but for the digits of chance, the numbers of instances and times. -/
inductive Evaluation.Redrawn (P : UInt64 → UInt64 → Prop) : (e e' : Evaluation) → Prop
  | mk (expression : String) {verdict verdict' : Verdict} (h : verdict.Redrawn P verdict') :
      Redrawn P ⟨expression, verdict⟩ ⟨expression, verdict'⟩

/-! ### Requests that are pursued alone -/

namespace Workshop

variable {r : Request} {host host' : Host} {w w' : Workshop}

/-- A step of a request calls the compiler at most once. -/
theorem length_attempts_advance_le (ready : w.Ready) (r : Request) (phase : Phase) :
    (w.advance r phase).2.machine.attempts.length ≤ w.machine.attempts.length + 1 := by
  have step := yields ready r phase
  generalize w.advance r phase = next at step ⊢
  cases step with
  | nothing => exact Nat.le_succ _
  | failure _ quiet _ => exact quiet.machine.attempts ▸ Nat.le_succ _
  | names _ _ counted => exact Nat.le_of_eq counted
  | made _ quiet _ _ => exact quiet.machine.attempts ▸ Nat.le_succ _

theorem length_attempts_pursueFor_le (ready : w.Ready) (r : Request) (steps : Nat)
    (phase : Phase) : (pursueFor r steps w phase).2.machine.attempts.length ≤
      w.machine.attempts.length + steps := by
  induction steps with
  | zero => exact Nat.le_refl _
  | succ steps ih =>
    rw [pursueFor_succ]
    have step := length_attempts_advance_le ((steady_pursueFor ready r steps phase).ready ready) r
      (pursueFor r steps w phase).1
    omega

/-- Any number of steps of an undisturbed request leave it undisturbed. -/
theorem Undisturbed.pursueFor {phase : Phase} (h : w.Undisturbed r phase) (steps : Nat)
    (bound : w.machine.attempts.length + steps ≤ UInt64.size) :
    (pursueFor r steps w phase).2.Undisturbed r (pursueFor r steps w phase).1 := by
  induction steps with
  | zero => exact h
  | succ steps ih =>
    have few := length_attempts_pursueFor_le h.ready r (steps + 1) phase
    rw [pursueFor_succ] at few ⊢
    exact (ih (by omega)).advance (by omega)

/-- **Two requests that are alike are pursued to ends that are**, if the compiler answers them
alike. -/
theorem Twins.pursueFor (h : Twins P r host host' w w') {phase phase' : Phase}
    (phases : phase.Redrawn P phase') (undisturbed : w.Undisturbed r phase)
    (undisturbed' : w'.Undisturbed r phase') (steps : Nat)
    (bound : w.machine.attempts.length + steps ≤ UInt64.size)
    (alike : Machine.Answered (Response.Redrawn P) (pursueFor r steps w phase).2.machine
      (pursueFor r steps w' phase').2.machine) :
    (pursueFor r steps w phase).1.Redrawn P (pursueFor r steps w' phase').1 ∧
      Twins P r host host' (pursueFor r steps w phase).2 (pursueFor r steps w' phase').2 := by
  induction steps with
  | zero => exact ⟨phases, h⟩
  | succ steps ih =>
    have bound' : w'.machine.attempts.length + (steps + 1) ≤ UInt64.size := h.counted ▸ bound
    have before := undisturbed.pursueFor steps (by omega)
    have before' := undisturbed'.pursueFor steps (by omega)
    simp only [pursueFor_succ] at alike ⊢
    obtain ⟨phases, twins⟩ := ih (by omega) (alike.of_steady (advance_steady before.ready r _).machine
      (advance_steady before'.ready r _).machine)
    exact twins.advance phases before before' alike

/-- Two answers to one expression. -/
theorem Twins.evaluate (h : Twins P r host host' w w') (unused : w.machine.attempts = [])
    (undisturbed : w.Undisturbed r .queued) (undisturbed' : w'.Undisturbed r .queued)
    (alike : Machine.Answered (Response.Redrawn P) (w.evaluate r).2.machine
      (w'.evaluate r).2.machine) :
    Option.Rel (Evaluation.Redrawn P) (w.evaluate r).1 (w'.evaluate r).1 := by
  have bound : w.machine.attempts.length + w.stepBound r ≤ UInt64.size := by
    have few := host.retries.toNat_lt
    simp only [unused, List.length_nil, stepBound, h.found, UInt64.size]
    omega
  have steps : w'.stepBound r = w.stepBound r := by
    simp only [stepBound, h.found, h.found', h.twin.retries]
  have onward (w : Workshop) : (w.pursue r .queued).2.machine.Steady (w.evaluate r).2.machine := by
    unfold Workshop.evaluate
    split
    · rename_i pursued
      rw [pursued]
      exact .refl _
    · rename_i pursued
      rw [pursued]
      exact (quiet_abandon ..).steady.machine
  have ends := h.pursueFor .queued undisturbed undisturbed' (w.stepBound r) bound
  have same : Workshop.pursueFor r (w.stepBound r) w' .queued = w'.pursue r .queued := by
    rw [Workshop.pursue, steps]
  rw [same] at ends
  obtain ⟨phases, -⟩ := ends (alike.of_steady (onward w) (onward w'))
  change Phase.Redrawn P (w.pursue r .queued).1 (w'.pursue r .queued).1 at phases
  unfold Workshop.evaluate
  generalize w.pursue r .queued = pursued at phases ⊢
  generalize w'.pursue r .queued = pursued' at phases ⊢
  obtain ⟨phase, after⟩ := pursued
  obtain ⟨phase', after'⟩ := pursued'
  dsimp only at phases
  cases phases with
  | queued => exact .none
  | compiling => exact .none
  | done verdicts => exact .some (.mk r.expression verdicts)

end Workshop

/-! ### Machines on which hosts are set up alike -/

namespace Machine

/-- Two machines on which no host has worked yet. They have the same files, look up programs in the
same place, and have compilers that say the same of themselves. -/
structure Peers (m m' : Machine) : Prop where
  unused : m.Unused
  unused' : m'.Unused
  files : m'.files = m.files
  searchPath : m'.searchPath = m.searchPath
  version : m'.tool.version = m.tool.version
  cranelift : m'.tool.cranelift = m.tool.cranelift
  nameable : m.Nameable
  nameable' : m'.Nameable

theorem Peers.detect_eq {m m' : Machine} (h : m.Peers m') (path : Option String) :
    Toolchain.detect m' path = Toolchain.detect m path := by
  have sited : m.Sited m' := ⟨h.files, h.searchPath⟩
  have at' (path : String) : Toolchain.atPath m' path = Toolchain.atPath m path := by
    simp only [Toolchain.atPath, sited.start_eq, h.version, h.cranelift]
  cases path with
  | some path => exact at' path
  | none => simp only [Toolchain.detect, Toolchain.search, find?, h.files, h.searchPath, at']

end Machine

/-- What is made of the files for a scratch directory is the same on machines with the same files. -/
theorem Bench.makeParent_of_files {m m' : Machine} (same : m'.files = m.files)
    {parent : Option String} {files files' : Files}
    (made : makeParent m parent = .ok { m with files })
    (made' : makeParent m' parent = .ok { m' with files := files' }) : files' = files := by
  unfold makeParent at made made'
  rw [same] at made'
  split at made
  · have own : m.files = files := congrArg Machine.files (Except.ok.inj made)
    have other : m'.files = files' := congrArg Machine.files (Except.ok.inj made')
    rw [← own, ← other, same]
  · split at made
    · rename_i path found housed
      simp only [housed] at made'
      have own := congrArg Machine.files (Except.ok.inj made)
      have other := congrArg Machine.files (Except.ok.inj made')
      exact other.symm.trans own
    · cases made

namespace Host

variable {m m' v v' : Machine} {settings : HostSettings} {chance chance' : UInt64 → Draw}
  {host host' : Host} {names names' : NameSource}

/-- **Hosts that are set up in the same way on peers are twins**, and the machines have the same
files then. -/
theorem twin_of_setUp (peers : m.Peers m')
    (created : setUp m chance settings = (.ok (host, names), v))
    (created' : setUp m' chance' settings = (.ok (host', names'), v')) :
    host.Twin host' ∧ names' = { names with chance := chance' } ∧ names.chance = chance ∧
      v.temporary = m.temporary ∧ v'.temporary = m'.temporary := by
  obtain ⟨base, toolchain, files, based, detected, made, rfl, rfl, rfl⟩ := of_setUp created
  obtain ⟨base', toolchain', files', based', detected', made', rfl, rfl, rfl⟩ := of_setUp created'
  obtain rfl : base' = base := Except.ok.inj (based'.symm.trans based)
  rw [peers.detect_eq] at detected'
  obtain rfl : toolchain' = toolchain := Except.ok.inj (detected'.symm.trans detected)
  obtain rfl := Bench.makeParent_of_files peers.files made made'
  exact ⟨⟨rfl, rfl, rfl, rfl⟩, rfl, rfl, rfl, rfl⟩

/-- Two hosts that were set up alike are alike. -/
theorem twins_setUp (peers : m.Peers m')
    (package : ∀ serial, P (chance serial).package (chance' serial).package)
    (unit : ∀ serial, P (chance serial).unit (chance' serial).unit)
    (created : setUp m chance settings = (.ok (host, names), v))
    (created' : setUp m' chance' settings = (.ok (host', names'), v'))
    (started : host.start v = host'.start v') (expression : String) :
    Twins P ⟨0, expression⟩ host host' { machine := v, names, hosts := [host] }
      { machine := v', names := names', hosts := [host'] } := by
  obtain ⟨twin, rfl, rfl, temporary, temporary'⟩ := twin_of_setUp peers created created'
  have untouched := (Workshop.furnished_setUp peers.unused created).untouched
  have untouched' := (Workshop.furnished_setUp peers.unused' created').untouched
  exact
    { found := rfl
      found' := rfl
      twin
      names := ⟨rfl, rfl, package, unit⟩
      counted := congrArg List.length (untouched.attempts.trans untouched'.attempts.symm)
      started
      nameable := fun number => temporary ▸ peers.nameable number
      nameable' := fun number => temporary' ▸ peers.nameable' number }

end Host

namespace Session

/-- **The answers to one expression, on two machines, are the same but for the digits of chance, the
numbers of instances and times**, if the compilers are started and answer alike. -/
theorem evaluate_twins {m m' v v' : Machine} {settings : HostSettings}
    {chance chance' : UInt64 → Draw} {host host' : Host} {names names' : NameSource}
    (peers : m.Peers m') (package : ∀ serial, P (chance serial).package (chance' serial).package)
    (unit : ∀ serial, P (chance serial).unit (chance' serial).unit)
    (created : Host.setUp m chance settings = (.ok (host, names), v))
    (created' : Host.setUp m' chance' settings = (.ok (host', names'), v'))
    (started : host.start v = host'.start v') (expression : String) :
    let s : Session := { workshop := { machine := v, names, hosts := [host] } }
    let s' : Session := { workshop := { machine := v', names := names', hosts := [host'] } }
    Machine.Answered (Response.Redrawn P) (s.evaluate ⟨0, expression⟩ false).2.workshop.machine
        (s'.evaluate ⟨0, expression⟩ false).2.workshop.machine →
      Option.Rel (Evaluation.Redrawn P) (s.evaluate ⟨0, expression⟩ false).1
        (s'.evaluate ⟨0, expression⟩ false).1 := by
  intro s s' alike
  have furnished := Workshop.furnished_setUp peers.unused created
  have furnished' := Workshop.furnished_setUp peers.unused' created'
  exact (Host.twins_setUp peers package unit created created' started expression).evaluate
    furnished.untouched.attempts (furnished.undisturbed _) (furnished'.undisturbed _) alike

end Session

end Plotter
