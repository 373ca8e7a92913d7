import Plotter.Proofs.CommandLine.Turns
import Plotter.Proofs.Session.Attempts

/-!
# At the prompt

What a user types is cut into lines, and each line is entered. To wait is to let the tasks stop that
were told to, to let the last one go on as far as it can, and to show what is finished. All of it is
made of turns of the loop (`Repl.LeadsTo`), so whatever is true after any turns is true of what the
program does.

The program ends. When it begins to wait for the last line, no other task is left that could go on
(`Repl.compiling_refresh`), and the steps that the last one is given are enough. It is done then, or
it waits for a run of the compiler that never ends.

## What is proved

* `Repl.unshown_wait`: after a wait every line is shown, unless a run never ends for which the last
  task waits.
* `Repl.readLoop_exact`: the program returns just in case each such run ends, and what it prints is
  what the loop has shown.
-/

namespace Plotter.CommandLine

namespace Repl

/-- The lines of what is typed, where `begun` (latest first) is what the first of them begins
with. -/
def typedLines (begun : List UInt8) : List Typed → List (List UInt8)
  | [] => if begun.isEmpty then [] else [begun.reverse]
  | t :: rest =>
    let (lines, left) := completeLines begun t.bytes
    lines ++ typedLines left rest

/-! ### Turns of which a wait is made -/

/-- Some turns lead from one state of the loop to another, and no line is read in them. -/
def LeadsTo (r r' : Repl) : Prop :=
  ∃ turns, ∀ unread, (⟨unread, r, none⟩ : Loop).after turns = ⟨unread, r', none⟩

variable {r r₁ r₂ r₃ : Repl} {n : Nat}

theorem LeadsTo.refl (r : Repl) : r.LeadsTo r := ⟨[], fun _ => rfl⟩

theorem LeadsTo.trans (h₁ : r₁.LeadsTo r₂) (h₂ : r₂.LeadsTo r₃) : r₁.LeadsTo r₃ := by
  obtain ⟨turns, leads⟩ := h₁
  obtain ⟨further, leads'⟩ := h₂
  exact ⟨turns ++ further, fun unread => by rw [Loop.after_append, leads, leads']⟩

theorem leadsTo_work (r : Repl) (n : Nat) : r.LeadsTo (r.work n) := ⟨[.work n], fun _ => rfl⟩

theorem leadsTo_present (r : Repl) (n : Nat) : r.LeadsTo (r.present n) :=
  ⟨[.present n], fun _ => rfl⟩

theorem leadsTo_foldl {f : Repl → Nat → Repl} (each : ∀ r n, LeadsTo r (f r n)) (r : Repl)
    (tickets : List Nat) : r.LeadsTo (tickets.foldl f r) := by
  induction tickets generalizing r with
  | nil => exact .refl r
  | cons n tickets ih => exact (each r n).trans (ih _)

/-- Whether a wait begins with something for a task: it was told to stop, or it has not begun. -/
def isPending : TaskState → Bool
  | .stopping _ | .live .queued => true
  | _ => false

/-- What happens to a line's task first when the user waits. -/
def poll (r : Repl) (n : Nat) : Repl :=
  if (r.session.task? n).any fun t => isPending t.state then r.work n else r

theorem refresh_eq (r : Repl) :
    r.refresh = r.unshown.foldl present (r.unshown.foldl poll r) := by
  unfold refresh
  refine congrArg (fun first => r.unshown.foldl present (r.unshown.foldl first r)) ?_
  funext r n
  unfold poll
  cases r.session.task? n with
  | none => rfl
  | some t =>
    obtain ⟨ticket, label, request, state⟩ := t
    cases state with
    | live phase => cases phase <;> rfl
    | _ => rfl

theorem leadsTo_poll (r : Repl) (n : Nat) : r.LeadsTo (r.poll n) := by
  unfold poll
  split
  · exact r.leadsTo_work n
  · exact .refl r

theorem leadsTo_refresh (r : Repl) : r.LeadsTo r.refresh := by
  rw [refresh_eq]
  exact (leadsTo_foldl leadsTo_poll r r.unshown).trans (leadsTo_foldl leadsTo_present _ _)

theorem leadsTo_workLast (enough : Session → Bool) (steps : Nat) (r : Repl) :
    r.LeadsTo (workLast enough steps r) := by
  induction steps generalizing r with
  | zero => exact .refl r
  | succ steps ih =>
    unfold workLast
    split
    · exact .refl r
    · split
      · exact .refl r
      · split
        · split
          · exact (r.leadsTo_work _).trans (ih _)
          · exact .refl r
        · exact .refl r

theorem leadsTo_wait (r : Repl) (patience : Patience) : r.LeadsTo (r.wait patience) := by
  cases patience with
  | answered => exact (r.leadsTo_refresh.trans (leadsTo_workLast _ _ _)).trans (leadsTo_refresh _)
  | started count => exact r.leadsTo_refresh.trans (leadsTo_workLast _ _ _)

/-! ### What a wait begins with -/

section

variable {w : Workshop} {lines : List (List Char)} {unread : List (List UInt8)} {host : Host}

theorem LeadsTo.fit (leads : r₁.LeadsTo r₂) (h : (⟨unread, r₁, none⟩ : Loop).Fit w lines) :
    (⟨unread, r₂, none⟩ : Loop).Fit w lines := by
  obtain ⟨turns, same⟩ := leads
  exact same unread ▸ h.after turns

/-- How a task stands when it was worked on. -/
def worked (s : Session) (t : Task) : TaskState :=
  match t.state with
  | .stopping _ => .superseded
  | _ => s.stepState t

/-- To work on a line changes its task and no other. -/
theorem tasks_work (numbered : r.session.Numbered) {t : Task}
    (member : t ∈ (r.work n).session.tasks) :
    ∃ u ∈ r.session.tasks, t = { u with
      state := if u.ticket = n then worked r.session u else u.state } := by
  have changed (next : Task → TaskState)
      (among : t ∈ r.session.tasks.map fun u =>
        if u.ticket = n then { u with state := next u } else u)
      (same : ∀ u ∈ r.session.tasks, u.ticket = n → next u = worked r.session u) :
      ∃ u ∈ r.session.tasks, t = { u with
        state := if u.ticket = n then worked r.session u else u.state } := by
    obtain ⟨u, there, rfl⟩ := List.mem_map.1 among
    refine ⟨u, there, ?_⟩
    split
    · rename_i own
      rw [same u there own]
    · rfl
  have found {u : Task} (there : u ∈ r.session.tasks) (own : u.ticket = n) :
      r.session.task? n = some u := own ▸ numbered.task?_eq there
  unfold work at member
  split at member
  · rename_i phase stopping
    rw [numbered.tasks_stop] at member
    refine changed (fun u => u.state.halt) member fun u there own => ?_
    rw [found there own, Option.map_some] at stopping
    rw [worked, Option.some.inj stopping]
    rfl
  · rename_i other
    rw [numbered.tasks_proceed] at member
    refine changed r.session.stepState member fun u there own => ?_
    unfold worked
    split
    · rename_i phase stopping
      exact absurd (by rw [found there own, Option.map_some, stopping]) (other phase)
    · rfl

/-- What a wait begins with leaves a task as it is, unless that was pending, and then it is not any
more. -/
theorem tasks_poll (h : (⟨unread, r, none⟩ : Loop).Fit w lines) (furnished : w.Furnished)
    (found : w.hosts[0]? = some host) {t : Task} (member : t ∈ (r.poll n).session.tasks) :
    ∃ u ∈ r.session.tasks, t.ticket = u.ticket ∧
      (isPending t.state = false ∨ t.state = u.state ∧ u.ticket ≠ n) := by
  have numbered := h.ordered.1
  unfold poll at member
  split at member
  · rename_i pending
    obtain ⟨u, there, rfl⟩ := tasks_work numbered member
    refine ⟨u, there, rfl, ?_⟩
    dsimp only
    split
    · rename_i own
      refine .inl ?_
      obtain ⟨u', own', pending⟩ := (Option.any_eq_true _ _).1 pending
      obtain rfl : u' = u := Option.some.inj (own'.symm.trans (own ▸ numbered.task?_eq there))
      have steady := h.steady furnished
      unfold worked
      cases state : u'.state with
      | stopping phase => rfl
      | superseded => simp [state, isPending] at pending
      | live phase =>
        obtain rfl : phase = .queued := by
          cases phase <;> simp_all [isPending]
        have hosted : r.session.workshop.hosts[u'.request.host]? = some host := by
          obtain ⟨line, -, request⟩ := h.own u' there
          rw [request, steady.hosts]
          exact found
        have begun : (r.session.workshop.advance u'.request .queued).1 ≠ .queued :=
          Workshop.advance_ne_queued (steady.ready furnished.ready) hosted rfl
        simp only [Session.stepState, state]
        generalize (r.session.workshop.advance u'.request .queued).1 = next at begun
        cases next with
        | queued => exact absurd rfl begun
        | _ => rfl
    · rename_i other
      exact .inr ⟨rfl, other⟩
  · rename_i idle
    refine ⟨t, member, rfl, ?_⟩
    by_cases own : t.ticket = n
    · rw [← own, numbered.task?_eq member] at idle
      exact .inl (by simpa using idle)
    · exact .inr ⟨rfl, own⟩

/-- No task is pending of the lines that a wait has begun with. -/
theorem tasks_pollAll (h : (⟨unread, r, none⟩ : Loop).Fit w lines) (furnished : w.Furnished)
    (found : w.hosts[0]? = some host) (tickets : List Nat) {t : Task}
    (member : t ∈ (tickets.foldl poll r).session.tasks) :
    (∃ u ∈ r.session.tasks, t.ticket = u.ticket) ∧
      (t.ticket ∈ tickets → isPending t.state = false) := by
  induction tickets using List.reverseRecOn generalizing t with
  | nil => exact ⟨⟨t, member, rfl⟩, nofun⟩
  | append_singleton tickets n ih =>
    rw [List.foldl_append, List.foldl_cons, List.foldl_nil] at member
    have fit := (leadsTo_foldl leadsTo_poll r tickets).fit h
    obtain ⟨u, there, ticket, left⟩ := tasks_poll fit furnished found member
    obtain ⟨⟨v, first, same⟩, settled⟩ := ih there
    refine ⟨⟨v, first, ticket.trans same⟩, fun among => ?_⟩
    rcases left with idle | ⟨state, other⟩
    · exact idle
    · rw [state]
      rw [ticket, List.mem_append, List.mem_singleton] at among
      exact settled (among.resolve_right other)

/-- A line that is shown has no task any more; one that is not finished is not shown. -/
theorem tasks_present (h : (⟨unread, r, none⟩ : Loop).Fit w lines) {t : Task}
    (member : t ∈ (r.present n).session.tasks) :
    t ∈ r.session.tasks ∧ (t.ticket = n → t.state.isFinished = false) := by
  cases ready : (r.session.task? n).bind Task.outcome? with
  | none =>
    rw [present_of_unfinished ready] at member
    refine ⟨member, ?_⟩
    rintro rfl
    rw [h.ordered.1.task?_eq member, Option.bind_some] at ready
    rw [← Moment.isSome_outcome?, ready]
    rfl
  | some outcome =>
    obtain ⟨u, found, own⟩ := Option.bind_eq_some_iff.1 ready
    rw [h.tasks_present found own, List.mem_filter] at member
    exact ⟨member.1, fun same => absurd same (by simpa using member.2)⟩

theorem tasks_presentAll (h : (⟨unread, r, none⟩ : Loop).Fit w lines) (tickets : List Nat) {t : Task}
    (member : t ∈ (tickets.foldl present r).session.tasks) :
    t ∈ r.session.tasks ∧ (t.ticket ∈ tickets → t.state.isFinished = false) := by
  induction tickets using List.reverseRecOn generalizing t with
  | nil => exact ⟨member, nofun⟩
  | append_singleton tickets n ih =>
    rw [List.foldl_append, List.foldl_cons, List.foldl_nil] at member
    have fit := (leadsTo_foldl leadsTo_present r tickets).fit h
    obtain ⟨there, own⟩ := tasks_present fit member
    obtain ⟨first, others⟩ := ih there
    refine ⟨first, fun among => ?_⟩
    rw [List.mem_append, List.mem_singleton] at among
    exact among.elim others own

/-- **Once a wait has begun**, every task that is left waits for its run of the compiler. -/
theorem compiling_refresh (h : (⟨unread, r, none⟩ : Loop).Fit w lines) (furnished : w.Furnished)
    (found : w.hosts[0]? = some host) {t : Task} (member : t ∈ r.refresh.session.tasks) :
    ∃ retried c, t.state = .live (.compiling retried c) := by
  rw [refresh_eq] at member
  have polled := (leadsTo_foldl leadsTo_poll r r.unshown).fit h
  obtain ⟨there, unfinished⟩ := tasks_presentAll polled r.unshown member
  obtain ⟨⟨u, first, ticket⟩, idle⟩ := tasks_pollAll h furnished found r.unshown there
  have among : t.ticket ∈ r.unshown := by
    rw [h.unshown, ticket]
    exact List.mem_map_of_mem first
  have unfinished := unfinished among
  have idle := idle among
  cases state : t.state with
  | superseded => simp [state, TaskState.isFinished] at unfinished
  | stopping phase => simp [state, isPending] at idle
  | live phase =>
    cases phase with
    | queued => simp [state, isPending] at idle
    | done verdict => simp [state, TaskState.isFinished, Phase.isDone] at unfinished
    | compiling retried c => exact ⟨retried, c, rfl⟩

/-- Only the last task can be at work. -/
theorem tasks_of_compiling (h : (⟨unread, r, none⟩ : Loop).Fit w lines)
    (compiling : ∀ t ∈ r.session.tasks, ∃ retried c, t.state = .live (.compiling retried c)) :
    r.session.tasks = [] ∨
      ∃ t retried c, r.session.tasks = [t] ∧ t.state = .live (.compiling retried c) := by
  have last {t : Task} (member : t ∈ r.session.tasks) :
      t.ticket + 1 = r.session.submitted := by
    obtain ⟨retried, c, state⟩ := compiling t member
    exact h.ordered.2.ticket_add_one member (by simp [state, TaskState.isAtWork, Phase.isDone])
  have distinct := h.ordered.1.distinct
  generalize r.session.tasks = tasks at compiling last distinct
  cases tasks with
  | nil => exact .inl rfl
  | cons t rest =>
    cases rest with
    | nil =>
      obtain ⟨retried, c, state⟩ := compiling t (List.mem_singleton_self t)
      exact .inr ⟨t, retried, c, rfl, state⟩
    | cons u rest =>
      have first := last (t := t) (by simp)
      have second := last (t := u) (by simp)
      rw [List.map_cons, List.nodup_cons, List.map_cons] at distinct
      exact absurd (List.mem_cons.2 (.inl (by omega))) distinct.1

/-! ### The last task goes on as far as it can -/

/-- A task that is worked on alone for as many steps as are left to it can go no further. -/
theorem stuck_workLast (h : (⟨unread, r, none⟩ : Loop).Fit w lines) (furnished : w.Furnished)
    (found : w.hosts[0]? = some host) {steps : Nat} {t : Task} {phase : Phase}
    (alone : r.session.tasks = [t]) (live : t.state = .live phase)
    (enough : phase.left host.retries ≤ steps) :
    ∃ u phase', (workLast (fun _ => false) steps r).session.tasks = [u] ∧
      u.state = .live phase' ∧ phase'.moves = false := by
  induction steps generalizing r t phase with
  | zero =>
    refine ⟨t, phase, alone, live, ?_⟩
    cases phase with
    | done verdict => rfl
    | queued => simp [Phase.left] at enough
    | compiling retried c => simp [Phase.left] at enough
  | succ steps ih =>
    have there : t ∈ r.session.tasks := alone ▸ List.mem_singleton_self t
    have numbered := h.ordered.1
    have own : r.session.task? t.ticket = some t := numbered.task?_eq there
    have last : r.unshown.getLast? = some t.ticket := by
      have unshown : r.unshown = _ := h.unshown
      rw [unshown]
      simp [alone]
    unfold workLast
    simp only [Bool.false_eq_true, if_false, last, own, Option.map_some, live]
    split
    · rename_i moves
      have steady : w.Steady r.session.workshop := h.steady furnished
      have hosted : r.session.workshop.hosts[t.request.host]? = some host := by
        obtain ⟨line, -, request⟩ := h.own t there
        rw [request, steady.hosts]
        exact found
      have fewer := Workshop.left_advance (steady.ready furnished.ready) hosted moves
      have working : r.work t.ticket = { r with session := r.session.proceed t.ticket } := by
        simp only [work, own, Option.map_some, live]
      have next : (r.work t.ticket).session.tasks =
          [{ t with state := .live (r.session.workshop.advance t.request phase).1 }] := by
        rw [working]
        dsimp only
        rw [numbered.tasks_proceed, alone]
        simp [Session.stepState, live]
      exact ih ((r.leadsTo_work t.ticket).fit h) next rfl (by omega)
    · rename_i stuck
      exact ⟨t, phase, alone, live, by simpa using stuck⟩

/-- A wait that begins with a task that is not pending shows it, if it is finished. -/
theorem refresh_of_alone (h : (⟨unread, r, none⟩ : Loop).Fit w lines) {t : Task}
    (alone : r.session.tasks = [t]) (idle : isPending t.state = false) :
    r.refresh = r.present t.ticket := by
  have own := h.ordered.1.task?_eq (t := t) (by simp [alone])
  have unshown : r.unshown = _ := h.unshown
  have polled : r.poll t.ticket = r := by
    rw [poll, own, Option.any_some, idle]
    rfl
  rw [refresh_eq, unshown]
  simp only [alone, List.map_cons, List.map_nil, List.foldl_cons, List.foldl_nil, polled]

theorem workLast_of_unshown (enough : Session → Bool) (steps : Nat) (shown : r.unshown = []) :
    workLast enough steps r = r := by
  cases steps with
  | zero => rfl
  | succ steps =>
    unfold workLast
    split
    · rfl
    · simp [shown]

/-- A loop without tasks has shown every line, and waits for no run. -/
theorem unshown_of_nobody (h : (⟨unread, r, none⟩ : Loop).Fit w lines)
    (nobody : r.session.tasks = []) : r.unshown = [] ↔ (⟨unread, r, none⟩ : Loop).RunsEnd := by
  have unshown : r.unshown = _ := h.unshown
  constructor
  · intro _ t member
    exact absurd member (by simp [nobody])
  · intro _
    simp [unshown, nobody]

/-- If the last task can go no further, its line is shown, unless its run never ends. -/
theorem unshown_refresh (h : (⟨unread, r, none⟩ : Loop).Fit w lines) {t : Task} {phase : Phase}
    (alone : r.session.tasks = [t]) (live : t.state = .live phase) (stuck : phase.moves = false) :
    r.refresh.unshown = [] ↔ (⟨unread, r.refresh, none⟩ : Loop).RunsEnd := by
  have idle : isPending t.state = false := by
    rw [live]
    cases phase with
    | queued => cases stuck
    | _ => rfl
  have fit := r.leadsTo_refresh.fit h
  rw [refresh_of_alone h alone idle] at fit ⊢
  have there : t ∈ r.session.tasks := alone ▸ List.mem_singleton_self t
  have own : r.session.task? t.ticket = some t := h.ordered.1.task?_eq there
  have finished : t.outcome?.isSome = phase.isDone := by
    rw [Moment.isSome_outcome?, live]
    rfl
  cases done : phase.isDone with
  | true =>
    refine unshown_of_nobody fit ?_
    obtain ⟨outcome, taken⟩ := Option.isSome_iff_exists.1 (finished.trans done)
    rw [h.tasks_present own taken, alone]
    simp
  | false =>
    have unready : t.outcome? = none := by
      rw [← Option.not_isSome_iff_eq_none, finished, done]
      exact Bool.false_ne_true
    rw [present_of_unfinished (by rw [own, Option.bind_some, unready])]
    have unshown : r.unshown = _ := h.unshown
    constructor
    · intro shown
      rw [unshown, alone] at shown
      simp at shown
    · intro ends
      obtain ⟨counter, c, killed, rfl, endless⟩ := Phase.endless_of_stuck stuck done
      exact absurd endless (ends t there counter c live killed)

/-- **After a wait every line is shown**, unless a run never ends for which the last task waits. -/
theorem unshown_wait (h : (⟨unread, r, none⟩ : Loop).Fit w lines) (furnished : w.Furnished)
    (found : w.hosts[0]? = some host) :
    (r.wait .answered).unshown = [] ↔ (⟨unread, r.wait .answered, none⟩ : Loop).RunsEnd := by
  have fit := r.leadsTo_refresh.fit h
  have waited : r.wait .answered =
    (workLast (fun _ => false) r.refresh.stepBound r.refresh).refresh := rfl
  rcases tasks_of_compiling fit (fun t => compiling_refresh h furnished found) with
    nobody | ⟨t, retried, c, alone, live⟩
  · have unshown : r.refresh.unshown = _ := fit.unshown
    have shown : r.refresh.unshown = [] := by rw [unshown, nobody, List.map_nil]
    have same : r.wait .answered = r.refresh := by
      rw [waited, workLast_of_unshown _ _ shown, refresh_eq, shown]
      rfl
    rw [same]
    exact unshown_of_nobody fit nobody
  · have hosted : r.refresh.session.workshop.hosts[0]? = some host := by
      rw [(fit.steady furnished).hosts]
      exact found
    have enough : (Phase.compiling retried c).left host.retries ≤ r.refresh.stepBound := by
      have few := (Phase.compiling retried c).left_le host.retries
      simpa only [stepBound, Workshop.stepBound, hosted] using few
    obtain ⟨u, phase, alone', live', stuck⟩ :=
      stuck_workLast fit furnished found alone live enough
    rw [waited]
    exact unshown_refresh ((leadsTo_workLast _ _ r.refresh).fit fit) alone' live' stuck

end

/-! ### What the program does with what is typed -/

theorem after_enterAll {lines : List (List UInt8)} (entered : r₁.enterAll lines = .ok r₂)
    (more : List (List UInt8)) :
    ∃ turns, (⟨lines ++ more, r₁, none⟩ : Loop).after turns = ⟨more, r₂, none⟩ := by
  induction lines generalizing r₁ with
  | nil =>
    obtain rfl := Except.ok.inj entered
    exact ⟨[], rfl⟩
  | cons line lines ih =>
    rw [enterAll] at entered
    split at entered
    · rename_i text decoded
      obtain ⟨turns, leads⟩ := ih entered
      refine ⟨.read :: turns, ?_⟩
      simp only [Loop.after_cons, Loop.step, Option.isSome_none, Bool.false_eq_true, if_false,
        Loop.read, List.cons_append, decoded]
      exact leads
    · simp at entered

/-- The program takes such turns until no line is left, and then waits for the last. -/
theorem after_run {begun : List UInt8} {typed : List Typed} (ran : r₁.run begun typed = .ok r₂) :
    ∃ turns r, (⟨typedLines begun typed, r₁, none⟩ : Loop).after turns = ⟨[], r, none⟩ ∧
      r₂ = r.wait .answered := by
  induction typed generalizing r₁ begun with
  | nil =>
    rw [run] at ran
    cases entered : r₁.enterAll (if begun.isEmpty then [] else [begun.reverse]) with
    | error r =>
      rw [entered] at ran
      simp [Except.map] at ran
    | ok r =>
      rw [entered] at ran
      obtain rfl : r.wait .answered = r₂ := by simpa [Except.map] using ran
      obtain ⟨turns, leads⟩ := after_enterAll entered []
      rw [List.append_nil] at leads
      exact ⟨turns, r, leads, rfl⟩
  | cons t rest ih =>
    rw [run] at ran
    generalize split : completeLines begun t.bytes = completed at ran
    obtain ⟨lines, left⟩ := completed
    dsimp only at ran
    cases entered : r₁.enterAll lines with
    | error r => simp [entered] at ran
    | ok r =>
      simp only [entered] at ran
      obtain ⟨turns, leads⟩ := after_enterAll entered (typedLines left rest)
      have waited : r.LeadsTo (if lines.isEmpty then r else r.wait t.patience) := by
        split
        · exact .refl r
        · exact r.leadsTo_wait t.patience
      obtain ⟨further, waits⟩ := waited
      obtain ⟨final, last, leads', ended⟩ := ih ran
      refine ⟨turns ++ (further ++ final), last, ?_, ended⟩
      rw [Loop.after_append, Loop.after_append, typedLines, split]
      dsimp only
      rw [leads, waits, leads']

theorem enterAll_error {lines : List (List UInt8)} {r r' : Repl}
    (failed : r.enterAll lines = .error r') :
    ∃ line ∈ lines, ∀ text, Text.Utf8.decode line ≠ .ok text := by
  induction lines generalizing r with
  | nil => simp [enterAll] at failed
  | cons line lines ih =>
    rw [enterAll] at failed
    split at failed
    · obtain ⟨other, among, broken⟩ := ih failed
      exact ⟨other, List.mem_cons_of_mem _ among, broken⟩
    · rename_i fault broken
      exact ⟨line, List.mem_cons_self, fun text whole => by simp [broken] at whole⟩

/-- The program stops before the end only at a line that is no text. -/
theorem run_error {r r' : Repl} {begun : List UInt8} {typed : List Typed}
    (failed : r.run begun typed = .error r') :
    ∃ line ∈ typedLines begun typed, ∀ text, Text.Utf8.decode line ≠ .ok text := by
  induction typed generalizing r begun with
  | nil =>
    rw [run] at failed
    cases entered : r.enterAll (if begun.isEmpty then [] else [begun.reverse]) with
    | error r => exact enterAll_error entered
    | ok r =>
      rw [entered] at failed
      simp [Except.map] at failed
  | cons t rest ih =>
    rw [run] at failed
    rw [typedLines]
    generalize completeLines begun t.bytes = completed at failed ⊢
    obtain ⟨lines, left⟩ := completed
    dsimp only at failed ⊢
    cases entered : r.enterAll lines with
    | error r =>
      obtain ⟨line, among, broken⟩ := enterAll_error entered
      exact ⟨line, List.mem_append_left _ among, broken⟩
    | ok r =>
      simp only [entered] at failed
      obtain ⟨line, among, broken⟩ := ih failed
      exact ⟨line, List.mem_append_right _ among, broken⟩

/-- The last line was shown where no line is left to be read or shown. -/
theorem isAnswered_of_unshown {w : Workshop} {lines : List (List Char)} {l : Loop}
    (h : l.Fit w lines) (shown : l.repl.unshown = []) : l.isAnswered = true := by
  have listed := h.listed
  rw [shown, List.nil_append] at listed
  have told := listed.mem_iff (a := l.repl.session.submitted - 1)
  simp only [List.mem_range] at told
  simp only [Loop.isAnswered, Bool.or_eq_true, beq_iff_eq, List.contains_iff_mem]
  rcases Nat.eq_zero_or_pos l.repl.session.submitted with unused | used
  · exact .inl unused
  · exact .inr (told.2 (Nat.sub_lt used Nat.one_pos))

/-- **What the program does with what is typed.** It takes turns of the loop until no line is left.
If then each run ends for which a task waits, the loop exits, and the program returns with status
zero and prints what was shown. Otherwise nothing comes of it. -/
theorem readLoop_exact {m m' : Machine} {chance : UInt64 → Draw} {settings : HostSettings}
    {host : Host} {names : NameSource} (unused : m.Unused)
    (setUp : Host.setUp m chance settings = (.ok (host, names), m'))
    {lines : List (List Char)} {typed : List Typed}
    (same : typedLines [] typed = lines.map Text.Utf8.encode) :
    ∃ turns, let l := (Loop.start { machine := m', names, hosts := [host] } lines).after turns
      l.unread = [] ∧
      (l.RunsEnd → l.status = some 0 ∧ ∃ t m'', readLoop m chance settings typed = some (t, m'') ∧
        t.status = 0 ∧ t.out = l.repl.text ++ "\n") ∧
      (¬l.RunsEnd → readLoop m chance settings typed = none) := by
  let w : Workshop := { machine := m', names, hosts := [host] }
  have furnished : w.Furnished := Workshop.furnished_setUp unused setUp
  simp only [readLoop, setUp]
  cases ran : run { session := { workshop := w } } [] typed with
  | error r =>
    obtain ⟨line, among, broken⟩ := run_error ran
    rw [same] at among
    obtain ⟨text, -, rfl⟩ := List.mem_map.1 among
    exact absurd ((Text.Utf8.decode_eq_ok_iff _ _).2 rfl) (broken text)
  | ok r =>
    obtain ⟨turns, before, leads, rfl⟩ := after_run ran
    rw [same] at leads
    have fit := Loop.fit_after w lines turns
    rw [Loop.start, leads] at fit
    have found : w.hosts[0]? = some host := rfl
    have ended := unshown_wait fit furnished found
    obtain ⟨further, waits⟩ := before.leadsTo_wait .answered
    have all : (Loop.start w lines).after (turns ++ further) =
        ⟨[], before.wait .answered, none⟩ := by
      rw [Loop.after_append, Loop.start, leads, waits]
    by_cases shown : (before.wait .answered).unshown = []
    · have fit' := (before.leadsTo_wait .answered).fit fit
      have exits : (Loop.start w lines).after (turns ++ further ++ [.exit]) =
          ⟨[], before.wait .answered, some 0⟩ := by
        rw [Loop.after_append, all]
        simp [Loop.step, isAnswered_of_unshown fit' shown]
      refine ⟨turns ++ further ++ [.exit], ?_⟩
      rw [exits]
      refine ⟨rfl, fun _ => ⟨rfl, ?_⟩, fun endless => absurd (ended.1 shown) endless⟩
      simp only [List.isEmpty_iff.2 shown, if_true]
      exact ⟨_, _, rfl, rfl, rfl⟩
    · refine ⟨turns ++ further, ?_⟩
      rw [all]
      refine ⟨rfl, fun ends => absurd (ended.2 ends) shown, fun _ => ?_⟩
      simp only [List.isEmpty_iff, if_neg shown]

end Repl

end Plotter.CommandLine
