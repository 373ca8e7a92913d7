import Mathlib.Algebra.Order.BigOperators.Group.List
import Mathlib.Algebra.Order.Ring.Nat
import Plotter.Proofs.Session.Clients

/-!
# Requests are pursued to their end

The definitions that let requests go on are given a number of steps that is to be enough. Here
it is shown to be. Each step of a request takes one from a number (`Phase.left`), that of a
request at its end is zero, and the numbers of steps given are no smaller than what is left to
the request and to the tasks that go on in the meantime.

## What is proved

* `Workshop.left_advance`: a step takes from what is left.
* `Session.due?_pursueFor`: a request that the user waits for goes on until it is at its end, or
  waits for a run that never ends.
* `Session.ending_cases`: this is how `Session.evaluate` ends, whether the user's background
  requests go on in the meantime or not.
-/

namespace Plotter

/-- A bound for the number of steps that a request may still take. -/
def Phase.left (retries : UInt32) : Phase → Nat
  | queued => retries.toNat + 2
  | compiling retried _ => retries.toNat - retried.toNat + 1
  | done _ => 0

theorem Phase.left_le (retries : UInt32) (phase : Phase) :
    phase.left retries ≤ retries.toNat + 2 := by
  cases phase <;> simp only [left] <;> omega

namespace Workshop

variable {w : Workshop} {r : Request} {host : Host} {template : Template}

theorem left_attempt (found : w.hosts[r.host]? = some host)
    (kept : host.templates.kept = some template) (retried : UInt32) :
    (w.attempt r host retried).1.left host.retries ≤
      host.retries.toNat - retried.toNat + 1 := by
  rw [attempt_eq found kept]
  split
  · simp [fail, Phase.left]
  · exact Nat.le_refl _

/-- A step of a request takes from what is left to it. -/
theorem left_advance (ready : w.Ready) (found : w.hosts[r.host]? = some host) {phase : Phase}
    (moves : phase.moves = true) :
    (w.advance r phase).1.left host.retries < phase.left host.retries := by
  obtain ⟨template, kept⟩ := ready host (List.mem_of_getElem? found)
  have own {host' : Host} (found' : w.hosts[r.host]? = some host') : host = host' :=
    Option.some.inj (found.symm.trans found')
  have step := w.advances r phase
  generalize w.advance r phase = next at step ⊢
  cases step with
  | stuck halted => simp [halted moves] at found
  | first found' =>
    obtain rfl := own found'
    refine Nat.lt_of_le_of_lt (left_attempt found kept 0) ?_
    simp only [UInt32.toNat_zero, Phase.left]
    omega
  | made found' ended => simp [Phase.left]
  | @again _ retried _ failure _ found' ended loading left =>
    obtain rfl := own found'
    rw [UInt32.lt_iff_toNat_lt] at left
    have quiet := ended.quiet_note (.retrying failure)
    refine Nat.lt_of_le_of_lt (left_attempt (quiet.hosts ▸ found) kept (retried + 1)) ?_
    have := host.retries.toNat_lt
    rw [UInt32.toNat_add, UInt32.toNat_one]
    simp only [Phase.left]
    omega
  | failed found' ended => simp [fail, Phase.left]

/-- A request that has begun is not queued again. -/
theorem advance_ne_queued (ready : w.Ready) (found : w.hosts[r.host]? = some host) {phase : Phase}
    (moves : phase.moves = true) : (w.advance r phase).1 ≠ .queued := by
  intro queued
  have fewer := left_advance ready found moves
  have bound := phase.left_le host.retries
  rw [queued] at fewer
  exact absurd (Nat.lt_of_lt_of_le fewer bound) (Nat.lt_irrefl _)

/-- A request that is pursued alone for as many steps as are left to it can go no further. -/
theorem moves_pursueFor (ready : w.Ready) (found : w.hosts[r.host]? = some host) {phase : Phase}
    {steps : Nat} (enough : phase.left host.retries ≤ steps) :
    (pursueFor r steps w phase).1.moves = false := by
  induction steps generalizing w phase with
  | zero =>
    cases phase with
    | done verdict => rfl
    | queued => simp [Phase.left] at enough
    | compiling retried c => simp [Phase.left] at enough
  | succ steps ih =>
    simp only [pursueFor]
    split
    · rename_i moves
      have steady := advance_steady ready r phase
      have fewer := left_advance ready found moves
      exact ih (steady.ready ready) (steady.hosts ▸ found) (by omega)
    · rename_i stuck
      exact Bool.not_eq_true _ ▸ stuck

end Workshop

/-! ### What is left to tasks -/

/-- A bound for the number of steps that a task may still take. -/
def Task.left (hosts : List Host) (t : Task) : Nat :=
  match t.state, hosts[t.request.host]? with
  | .live phase, some host => phase.left host.retries
  | _, _ => 0

namespace Session

/-- A bound for the number of steps that the tasks may still take. -/
def left (s : Session) : Nat := (s.tasks.map (Task.left s.workshop.hosts)).sum

/-- Tickets are in order, every host has its template, and every task has a host. -/
structure Orderly (s : Session) : Prop where
  numbered : s.Numbered
  ready : s.workshop.Ready
  housed : ∀ t ∈ s.tasks, t.request.host < s.workshop.hosts.length

variable {s : Session}

theorem Orderly.steady (h : s.Orderly) {workshop : Workshop} (steady : s.workshop.Steady workshop) :
    { s with workshop }.Orderly where
  numbered := ⟨h.numbered.distinct, h.numbered.below⟩
  ready := steady.ready h.ready
  housed := fun t member => steady.hosts ▸ h.housed t member

theorem Orderly.stop (h : s.Orderly) (n : Nat) : (s.stop n).Orderly where
  numbered := h.numbered.stop n
  ready := (s.quiet_stop n).steady.ready h.ready
  housed := by
    intro t member
    rw [h.numbered.tasks_stop, List.mem_map] at member
    obtain ⟨u, member, rfl⟩ := member
    have := h.housed u member
    rw [(s.quiet_stop n).hosts]
    split <;> exact this

theorem Orderly.proceed (h : s.Orderly) (n : Nat) : (s.proceed n).Orderly where
  numbered := h.numbered.proceed n
  ready := (steady_proceed h.ready n).ready h.ready
  housed := by
    intro t member
    rw [h.numbered.tasks_proceed, List.mem_map] at member
    obtain ⟨u, member, rfl⟩ := member
    have := h.housed u member
    rw [(steady_proceed h.ready n).hosts]
    split <;> exact this

theorem left_le (s : Session) :
    s.left ≤ (s.tasks.map fun t => s.workshop.stepBound t.request).sum := by
  refine List.sum_le_sum fun t _ => ?_
  unfold Task.left Workshop.stepBound
  cases s.workshop.hosts[t.request.host]? with
  | none => simp
  | some host =>
    cases t.state with
    | live phase => exact phase.left_le host.retries
    | _ => exact Nat.zero_le _

theorem left_stop (h : s.Orderly) (n : Nat) : (s.stop n).left ≤ s.left := by
  unfold left
  rw [h.numbered.tasks_stop, (s.quiet_stop n).hosts, List.map_map]
  refine List.sum_le_sum fun t _ => ?_
  simp only [Function.comp]
  split
  · cases state : t.state <;> simp [Task.left, TaskState.halt, state]
  · exact Nat.le_refl _

/-- A step of a task takes from what is left to it. -/
theorem left_stepState (h : s.Orderly) {t : Task} (member : t ∈ s.tasks) :
    Task.left s.workshop.hosts { t with state := s.stepState t } ≤ t.left s.workshop.hosts ∧
      (t.due?.isSome → Task.left s.workshop.hosts { t with state := s.stepState t } <
        t.left s.workshop.hosts) := by
  have found := List.getElem?_eq_getElem (h.housed t member)
  unfold Task.left stepState Task.due?
  cases t.state with
  | live phase =>
    simp only [found]
    cases moves : phase.moves with
    | true =>
      have fewer := Workshop.left_advance h.ready found moves
      exact ⟨Nat.le_of_lt fewer, fun _ => fewer⟩
    | false =>
      rw [Workshop.advance_of_stuck _ _ moves]
      refine ⟨Nat.le_refl _, fun due => ?_⟩
      cases phase <;> simp_all [Phase.due?, Phase.moves]
  | stopping phase => simp
  | superseded => simp

theorem left_proceed (h : s.Orderly) (n : Nat) : (s.proceed n).left ≤ s.left := by
  unfold left
  rw [h.numbered.tasks_proceed, (steady_proceed h.ready n).hosts, List.map_map]
  refine List.sum_le_sum fun t member => ?_
  simp only [Function.comp]
  split
  · exact (left_stepState h member).1
  · exact Nat.le_refl _

theorem left_proceed_lt (h : s.Orderly) {t : Task} (member : t ∈ s.tasks) (due : t.due?.isSome) :
    (s.proceed t.ticket).left < s.left := by
  unfold left
  rw [h.numbered.tasks_proceed, (steady_proceed h.ready t.ticket).hosts, List.map_map]
  refine List.sum_lt_sum _ _ (fun u there => ?_) ⟨t, member, ?_⟩
  · simp only [Function.comp]
    split
    · exact (left_stepState h there).1
    · exact Nat.le_refl _
  · simp only [Function.comp, if_true]
    exact (left_stepState h member).2 due

/-! ### The user waits -/

theorem poll_orderly (h : s.Orderly) : s.poll.Orderly ∧ s.poll.left ≤ s.left ∧
    s.workshop.Steady s.poll.workshop := by
  unfold poll
  generalize s.tasks.map Task.ticket = tickets
  induction tickets generalizing s with
  | nil => exact ⟨h, Nat.le_refl _, .refl _⟩
  | cons n tickets ih =>
    have polled : (s.pollTask n).Orderly ∧ (s.pollTask n).left ≤ s.left ∧
        s.workshop.Steady (s.pollTask n).workshop := by
      unfold pollTask
      split
      · exact ⟨h.stop n, left_stop h n, (s.quiet_stop n).steady⟩
      · exact ⟨h.proceed n, left_proceed h n, steady_proceed h.ready n⟩
      · exact ⟨h, Nat.le_refl _, .refl _⟩
    obtain ⟨orderly, fewer, steady⟩ := polled
    obtain ⟨orderly', fewer', steady'⟩ := ih orderly
    exact ⟨orderly', Nat.le_trans fewer' fewer, steady.trans steady'⟩

/-- A request that the user waits for goes on as long as it can. -/
theorem due?_pursueFor (h : s.Orderly) {r : Request} {host : Host}
    (found : s.workshop.hosts[r.host]? = some host) {phase : Phase} {steps : Nat}
    (enough : phase.left host.retries + s.left ≤ steps) (begun : phase ≠ .queued) :
    (s.pursueFor r steps phase).1.moves = false := by
  induction steps generalizing s phase with
  | zero =>
    cases phase with
    | done verdict => rfl
    | queued => exact absurd rfl begun
    | compiling retried c => simp [Phase.left] at enough
  | succ steps ih =>
    unfold pursueFor
    split
    · rename_i stuck
      cases phase with
      | done verdict => rfl
      | queued => exact absurd rfl begun
      | compiling retried c => exact congrArg Option.isSome stuck
    · rename_i time due
      split
      · rename_i t first
        obtain ⟨own, mine, -⟩ := due_of_dueBefore? first
        have member : t ∈ s.tasks := by
          unfold dueBefore? at first
          split at first
          · split at first
            · exact List.mem_of_find?_eq_some first
            · simp at first
          · simp at first
        have fewer := left_proceed_lt h member (by simp [mine])
        exact ih (h.proceed _) ((steady_proceed h.ready _).hosts ▸ found) (by omega) begun
      · have moves : phase.moves = true := by
          cases phase with
          | compiling retried c => exact congrArg Option.isSome due
          | queued => rfl
          | done verdict => simp [Phase.due?] at due
        have steady := Workshop.advance_steady h.ready r phase
        have fewer := Workshop.left_advance h.ready found moves
        have same : { s with workshop := (s.workshop.advance r phase).2 }.left = s.left := by
          simp only [left, steady.hosts]
        have begun' := Workshop.advance_ne_queued h.ready found moves
        generalize s.workshop.advance r phase = advanced at steady fewer same begun'
        exact ih (h.steady steady) (steady.hosts ▸ found) (by omega) begun'

/-- What may be left to a request and the tasks together is no more than the number of steps
that they are given. -/
theorem left_add_le (s : Session) (r : Request) :
    s.workshop.stepBound r + s.left ≤ s.stepBound r := by
  have sum (bound : Nat) (tasks : List Task) :
      tasks.foldl (fun bound t => bound + s.workshop.stepBound t.request) bound =
        bound + (tasks.map fun t => s.workshop.stepBound t.request).sum := by
    induction tasks generalizing bound with
    | nil => rfl
    | cons t tasks ih =>
      rw [List.foldl_cons, ih, List.map_cons, List.sum_cons, Nat.add_assoc]
  rw [stepBound, sum]
  exact Nat.add_le_add_left s.left_le _

theorem stepBound_eq {r : Request} {host : Host} (found : s.workshop.hosts[r.host]? = some host) :
    s.workshop.stepBound r = host.retries.toNat + 2 := by
  simp only [Workshop.stepBound, found]

/-- **How a request ends that the user waits for.** It is at its end, or waits for a run of the
compiler that never ends. -/
theorem ending_stuck (h : s.Orderly) {r : Request} {host : Host}
    (found : s.workshop.hosts[r.host]? = some host) (waiting : Bool) :
    (s.ending r waiting).1.moves = false := by
  cases waiting with
  | false =>
    refine Workshop.moves_pursueFor h.ready found ?_
    rw [stepBound_eq found]
    exact Phase.left_le ..
  | true =>
    have steady := Workshop.advance_steady h.ready r .queued
    have moves : (Phase.queued).moves = true := rfl
    have begun := Workshop.advance_ne_queued h.ready found moves
    have fewer := Workshop.left_advance h.ready found moves
    simp only [ending, if_true]
    generalize s.workshop.advance r .queued = advanced at steady begun fewer
    obtain ⟨phase, workshop⟩ := advanced
    dsimp only at steady begun fewer ⊢
    cases phase with
    | done verdict => rfl
    | queued => exact absurd rfl begun
    | compiling retried c =>
      obtain ⟨orderly, polled, steady'⟩ := poll_orderly (h.steady steady)
      have found' := steady.hosts ▸ found
      have all := left_add_le { s with workshop } r
      refine due?_pursueFor orderly (steady'.hosts ▸ found') ?_ (by simp)
      rw [stepBound_eq (s := { s with workshop }) found'] at all
      have own : (Phase.queued).left host.retries = host.retries.toNat + 2 := rfl
      omega

end Session

namespace Moment

/-- Background requests are requests to the first host. -/
theorem host_after (w : Workshop) (events : List Event) :
    ∀ t ∈ ((first w).after events).session.tasks, t.request.host = 0 := by
  refine (after_induction (P := fun m => m.session.Numbered ∧
    ∀ t ∈ m.session.tasks, t.request.host = 0) (fun m e h => ?_) ?_ events).2
  · refine ⟨numbered_react h.1 e, fun t member => ?_⟩
    rcases mem_react h.1 e member with ⟨expression, label, -, rfl⟩ | ⟨u, there, -, request, -⟩
    · rfl
    · rw [request]
      exact h.2 u there
  · exact ⟨numbered_after w [], by simp [first]⟩

theorem orderly_after {w : Workshop} (furnished : w.Furnished) (hosted : 0 < w.hosts.length)
    (events : List Event) : ((first w).after events).session.Orderly where
  numbered := numbered_after w events
  ready := (steady_after furnished events).ready furnished.ready
  housed := by
    intro t member
    rw [host_after w events t member, (steady_after furnished events).hosts]
    exact hosted

end Moment

end Plotter
