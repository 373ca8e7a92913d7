import Plotter.Proofs.Session.Leftovers
import Plotter.Proofs.Session.Libraries

/-!
# What a request leaves that is aborted

A background request is aborted by a cancellation, or by the next submission. The order comes before
the request is taken up, or while it waits for the compiler, in its first attempt or in a later one
(`Moment.Aborted`). Nothing comes of such a request but its names (`Moment.Fruitless`): each attempt
that it has begun took a pair of them and started the compiler once, and whatever else was there is
there as before.

The files are another matter. They stay if the run is killed for which the request waits: the task
stops before that run is over, and so do the other tasks that are told to (`Moment.Timely`). If a run
is over before its task stops, nobody kills it, and its library stays.

## What is proved

* `Moment.Submission.fruitless`: nothing comes of a request that is aborted but names.
* `Moment.CleanSubmission.untouched_iff`: the files stay when a request is aborted, just in case whoever
  is told to stop does so in time.
* `Moment.aborts_exact`: all this of every request that is submitted and aborted at any time. It is
  superseded, and its task never has a handle.
* `Moment.library_of_cancelled`: a request that stops too late, and its library.

## Honest scope

Files are compared with those that are there once the runs that are over have left what they leave.
Between the submission and the time at which the request has stopped the user does nothing but give
the order, and the next request is not taken up. Names are told apart by a serial number of 64 bits;
what becomes of the files is proved of machines whose compiler was called no more than 2⁶⁴ times.
-/

namespace Plotter

namespace Moment

variable {m : Moment} {n : Nat} {r : Request} {host : Host} {phase : Phase}

/-- Everything that runs have left is there once they have landed. -/
theorem landed_after {w : Workshop} (furnished : w.Furnished) (earlier : List Event)
    (bound : ((first w).after (earlier ++ [.land])).session.workshop.machine.attempts.length ≤
      UInt64.size) : ((first w).after (earlier ++ [.land])).session.Landed := by
  have grows := attempts_le_after furnished earlier [.land]
  rw [← after_append] at grows
  rw [after_append, after_cons, after_nil]
  exact landed_land (ledger_after furnished earlier (Nat.le_trans grows bound))

/-- A request that comes in is in flight. -/
theorem submission {w : Workshop} (furnished : w.Furnished) (earlier : List Event)
    (found : w.hosts[0]? = some host) (expression label : String) :
    Submission w host (earlier ++ [.submit expression label])
      ((first w).after earlier).session.submitted ⟨0, expression⟩ := by
  have ordered : ((first w).after earlier).session.Numbered ∧
      ((first w).after earlier).session.InPlace :=
    ⟨numbered_after w earlier, inPlace_after w earlier⟩
  have fresh := fresh_submit ordered expression label
  have ticket : ((first w).after earlier).session.submitted ∈
      (((first w).after earlier).react
        (.submit expression label)).session.tasks.map Task.ticket := by
    simp [react, Session.tickets_submit]
  obtain ⟨t, -, -, there⟩ := fresh.ordered.1.task?_of_ticket ticket
  obtain ⟨request, live⟩ := fresh.queued t there
  refine ⟨furnished, found, ?_⟩
  rw [after_append, after_cons, after_nil]
  exact ⟨fresh.ordered, inFlight_react _ _, standing?_task.2 ⟨t, there, request, live⟩⟩

/-- Everything is there that tasks have left, if everything has landed when a request comes in. -/
theorem settled_submit (numbered : m.session.Numbered) (landed : m.session.Landed)
    (expression label : String) : (m.react (.submit expression label)).session.Settled := by
  intro u member phase stopping p
  rcases mem_react numbered _ member with ⟨_, _, -, rfl⟩ | ⟨v, before, -, request, state⟩
  · cases stopping
  · have same : u.state.phase? = v.state.phase? := by
      rw [state, nextState]
      split
      · exact v.state.phase?_stop
      · rfl
    have stands : v.state.phase? = some phase := by
      rw [← same, stopping]
      rfl
    rw [request]
    exact landed v before phase stands p

/-- From one moment to another a request came and went, and nothing came of it but names: it began
`begun` attempts. -/
structure Fruitless (m m' : Moment) (r : Request) (host : Host) (begun : Nat) : Prop extends
    Keeps m m' where
  rooms : m.session.workshop.SameRooms m'.session.workshop
  /-- The hosts are as they were, with their templates. -/
  hosts : m'.session.workshop.hosts = m.session.workshop.hosts
  residents : m'.session.workshop.residents = m.session.workshop.residents
  /-- No instance was made in between. -/
  made : m'.session.workshop.made = m.session.workshop.made
  /-- Every handle has the values that it would have had. -/
  values : ∀ handle xs,
    (m'.session.workshop.callAll handle xs).1 = (m.session.workshop.callAll handle xs).1
  /-- Each attempt took a pair of names and started the compiler once. -/
  spent : ∃ starts : List Start, starts.length = begun ∧
    Spent host m.session.workshop m'.session.workshop starts ∧
      ∀ s ∈ starts, s.Sound r host ∧ s.compilation.response.isStarted = true

/-- From a moment on a request is aborted: in `run` the runtime lets it come as far as `phase`, then
it is told to stop by an order, and in `halts` it stops. -/
structure Aborted (m : Moment) (n : Nat) (r : Request) (phase : Phase) (run : List Event)
    (order : Event) (halts : List Event) : Prop where
  runtime : ∀ e ∈ run, e.isRuntime = true
  orders : order.isOrder = true
  halting : ∀ e ∈ halts, e.isHalt = true
  stops : .stop n ∈ halts
  standing : (m.after run).standing? (.task n) = some (r, phase)
  unfinished : phase.isDone = false

namespace Aborted

variable {run halts : List Event} {order : Event}

theorem background (h : m.Aborted n r phase run order halts) :
    ∀ e ∈ run ++ order :: halts, e.isBackground = true := by
  intro e member
  rw [List.mem_append, List.mem_cons] at member
  rw [Event.isBackground, Bool.or_eq_true]
  rcases member with among | rfl | among
  · exact .inl (h.runtime e among)
  · exact .inr h.orders
  · exact .inl (Event.isRuntime_of_isHalt (h.halting e among))

/-- Once it has stopped, what runs have left may be put in its place. -/
theorem land (h : m.Aborted n r phase run order halts) :
    m.Aborted n r phase run order (halts ++ [.land]) where
  runtime := h.runtime
  orders := h.orders
  halting := by
    intro e member
    rcases List.mem_append.1 member with among | last
    · exact h.halting e among
    · obtain rfl := List.mem_singleton.1 last
      rfl
  stops := List.mem_append_left _ h.stops
  standing := h.standing
  unfinished := h.unfinished

/-- The moment at which a request has stopped, from that at which it is told to. -/
theorem after_eq (m : Moment) (run : List Event) (order : Event) (halts : List Event) :
    m.after (run ++ order :: halts) = ((m.after run).react order).after halts := by
  rw [after_append, after_cons]

end Aborted

namespace Submission

variable {w : Workshop} {start run halts : List Event} {order : Event}

/-- A request that is aborted is superseded. -/
theorem superseded (h : Submission w host start n r)
    (aborted : ((first w).after start).Aborted n r phase run order halts) :
    ((((first w).after start).after (run ++ order :: halts)).session.take n).1 =
      some .superseded := by
  have now := h.inFlight_after aborted.runtime aborted.standing
  obtain ⟨t, found, stopping⟩ := now.told aborted.unfinished aborted.orders
  rw [Aborted.after_eq]
  have numbered := numbered_react (h.ordered_after run).1 order
  exact superseded_of_stop numbered aborted.halting aborted.stops found ⟨_, stopping⟩

/-- **Nothing comes of a request that is aborted** but names. -/
theorem fruitless (h : Submission w host start n r)
    (aborted : ((first w).after start).Aborted n r phase run order halts) :
    Fruitless ((first w).after start) (((first w).after start).after (run ++ order :: halts)) r host
      phase.begun := by
  have now := h.inFlight_after aborted.runtime aborted.standing
  have background := aborted.background
  have rooms := h.sameRooms background
  have kept := keeps_after h.queued.ordered.1 background
  have hosts := (h.steady_after (run ++ order :: halts)).hosts.trans (h.steady_after []).hosts.symm
  obtain ⟨residents', made', quiet⟩ :=
    quiet_halts (m := (((first w).after start).after run).react order) aborted.halting
  obtain ⟨residents, made⟩ := h.unmade aborted.runtime now aborted.unfinished
  obtain ⟨-, trials, history⟩ := history_after h.furnished start run h.found h.queued.standing
    (by simp) now.standing
  obtain ⟨starts, begun, spent, sound⟩ :=
    history.spent_of_unfinished aborted.unfinished (h.linked aborted.runtime now)
  rw [Aborted.after_eq] at rooms kept hosts ⊢
  rw [workshop_order _ aborted.orders] at residents' made' quiet
  have same := residents'.trans residents
  exact {
    toKeeps := kept
    rooms := rooms
    hosts := hosts
    residents := same
    made := made'.trans made
    values := Workshop.callAll_congr same
    spent := ⟨starts, begun, spent.quiet quiet, sound⟩ }

/-- A run would leave nothing for which a request waits that is told to stop in time. -/
theorem early (h : Submission w host start n r)
    (aborted : ((first w).after start).Aborted n r phase run order halts)
    (timely : ((first w).after start).Timely (run ++ order :: halts)) {retried : UInt32}
    {c : Compilation} (compiling : phase = .compiling retried c) :
    c.leftAt (((first w).after start).after run).session.workshop.machine.clock = none := by
  subst compiling
  have now := h.inFlight_after aborted.runtime aborted.standing
  obtain ⟨t, found, stopping⟩ := now.told aborted.unfinished aborted.orders
  have same : ((first w).after start).after (run ++ [order]) =
      (((first w).after start).after run).react order := by
    rw [after_append, after_cons, after_nil]
  rw [← same] at found
  rcases timely (run ++ [order]) halts (by simp) t (Session.mem_of_task? found) retried c
    stopping with since | nothing
  · rw [h.late aborted.runtime now] at since
    cases since
  · rwa [same, workshop_order _ aborted.orders] at nothing

/-- From the submission on one order is given, which tells the request to stop. -/
theorem eq_order (aborted : m.Aborted n r phase run order halts) {before after : List Event}
    {e : Event} (same : run ++ order :: halts = before ++ e :: after) (orders : e.isOrder = true) :
    before = run ∧ e = order := by
  have other {e : Event} (orders : e.isOrder = true) : e ∉ run ∧ e ∉ halts := by
    refine ⟨fun among => ?_, fun among => ?_⟩
    · have runtime := aborted.runtime e among
      rw [Event.isRuntime_of_isOrder orders] at runtime
      cases runtime
    · have runtime := Event.isRuntime_of_isHalt (aborted.halting e among)
      rw [Event.isRuntime_of_isOrder orders] at runtime
      cases runtime
  rcases List.append_eq_append_iff.1 same with ⟨rest, rfl, tail⟩ | ⟨rest, rfl, tail⟩
  · cases rest with
    | nil => exact ⟨(List.append_nil run), (List.cons.inj tail).1.symm⟩
    | cons f rest =>
      obtain ⟨-, rfl⟩ := List.cons.inj tail
      exact absurd (by simp) (other orders).2
  · cases rest with
    | nil => exact ⟨(List.append_nil before).symm, (List.cons.inj tail).1⟩
    | cons f rest =>
      obtain ⟨rfl, -⟩ := List.cons.inj tail
      exact absurd (by simp) (other orders).1

/-- **Who is told to stop since a request was submitted**: a task that was told to before, or the
request's own. -/
theorem stopping_since (h : Submission w host start n r)
    (aborted : ((first w).after start).Aborted n r phase run order halts)
    {before after : List Event} (same : run ++ order :: halts = before ++ after) {t : Task}
    (member : t ∈ (((first w).after start).after before).session.tasks) {retried : UInt32}
    {c : Compilation} (stopping : t.state = .stopping (.compiling retried c)) :
    (∃ u ∈ ((first w).after start).session.tasks, t.request = u.request ∧
        u.state = .stopping (.compiling retried c)) ∨ phase = .compiling retried c := by
  induction before using List.reverseRecOn generalizing t after with
  | nil => exact .inl ⟨t, member, rfl, stopping⟩
  | append_singleton before e ih =>
    rw [List.append_assoc, List.singleton_append] at same
    rw [after_append, after_cons, after_nil] at member
    rcases stopping_before (h.ordered_after before).1 e member stopping with
      ⟨u, there, request, told | ⟨orders, live⟩⟩
    · refine (ih same there told).imp_left ?_
      rintro ⟨v, first', request', told'⟩
      exact ⟨v, first', request.trans request', told'⟩
    · obtain ⟨rfl, rfl⟩ := eq_order aborted same orders
      have now := h.inFlight_after aborted.runtime aborted.standing
      rcases now.of_live there live with done | ⟨-, -, own⟩
      · cases done
      · exact .inr own.symm

end Submission

namespace CleanSubmission

variable {w : Workshop} {start run halts : List Event} {order : Event}

/-- **The files stay when a request is aborted**, if whoever is told to stop does so in time. -/
theorem untouched (h : CleanSubmission w host start n r)
    (aborted : ((first w).after start).Aborted n r phase run order halts)
    (timely : ((first w).after start).Timely (run ++ order :: halts))
    (bound : (((first w).after start).after
      (run ++ order :: halts)).session.workshop.machine.attempts.length ≤ UInt64.size) (p : Place) :
    (((first w).after start).after (run ++ order :: halts)).session.workshop.machine.at? p =
      ((first w).after start).session.workshop.machine.at? p := by
  have bound' := h.attempts_le run (order :: halts) bound
  have now := h.inFlight_after aborted.runtime aborted.standing
  have early (retried : UInt32) (c : Compilation) (compiling : phase = .compiling retried c) :=
    h.early aborted timely compiling
  -- Until the order, the request is alone with the files; from then on tasks only stop.
  have files := h.files aborted.runtime timely.before now aborted.unfinished early bound' p
  have settled := h.settled_after aborted.runtime timely.before now aborted.unfinished bound'
  have halting := now.halting (h.ready_after run) (h.ledger_after run bound') bound' settled
    (h.removable_after run) early aborted.orders
  have clock := (steady_react (h.ready_after run) order).machine.clock
  have halted := (timely.rest run (steady_later (h.ready_after []) run).machine.clock).rest [order]
    clock
  have files' := halting.after aborted.halting halted p
  rw [workshop_order _ aborted.orders] at files'
  rw [Aborted.after_eq]
  exact files'.trans files

/-- Nothing was at the place of a run whose task is told to stop when the request was submitted, if
the run was not over. -/
theorem vacant_at_first (h : CleanSubmission w host start n r)
    (aborted : ((first w).after start).Aborted n r phase run order halts)
    {before after : List Event} (same : run ++ order :: halts = before ++ after)
    (bound : (((first w).after start).after
      (run ++ order :: halts)).session.workshop.machine.attempts.length ≤ UInt64.size) {t : Task}
    (member : t ∈ (((first w).after start).after before).session.tasks) {retried : UInt32}
    {c : Compilation} (stopping : t.state = .stopping (.compiling retried c))
    (found : w.hosts[t.request.host]? = some host)
    (early : c.isOver ((first w).after start).session.workshop.machine.clock = false) :
    ((first w).after start).session.workshop.machine.at? (host.bench.placeOf c.unit) = none := by
  have bound' := h.attempts_le run (order :: halts) bound
  have bound₀ := h.attempts_le [] (run ++ order :: halts) bound
  rcases h.stopping_since aborted same member stopping with ⟨u, first', request, told⟩ | own
  · have job := job_of_task first' (by rw [told]; rfl)
      ((Moment.steady_after h.furnished start).hosts.symm ▸ request ▸ found)
    exact Machine.Ledger.vacant (h.ledger_after [] bound₀) job early
  · -- The names of the request's own run were not given when it was submitted.
    obtain ⟨trials, -, -, files⟩ := filesLeft_after h.furnished start run h.found h.queued.standing
      (by simp) h.held bound' aborted.standing (by
        rintro _ _ _ _ rfl
        cases aborted.unfinished)
    exact vacant_of_unnamed h.furnished start bound₀ (files.fresh retried c own).1

/-- **The files do not stay**, if someone is told to stop who does not do so in time. -/
theorem timely_of_untouched (h : CleanSubmission w host start n r)
    (aborted : ((first w).after start).Aborted n r phase run order halts)
    (bound : (((first w).after start).after
      (run ++ order :: halts)).session.workshop.machine.attempts.length ≤ UInt64.size)
    (untouched : ∀ p, ((((first w).after start).after (run ++ order :: halts)).react
        .land).session.workshop.machine.at? p =
      ((first w).after start).session.workshop.machine.at? p) :
    ((first w).after start).Timely (run ++ order :: halts) := by
  intro before after same t member retried c stopping
  rw [or_iff_not_imp_left, Bool.not_eq_true]
  intro early
  by_contra something
  have background := aborted.background
  rw [same] at background
  have bound' := h.attempts_le before after (same ▸ bound)
  have found : w.hosts[t.request.host]? = some host := by
    obtain ⟨u, there, own, -⟩ := standing?_task.1 h.queued.standing
    have first' := host_after w start u (Session.mem_of_task? there)
    have last := host_after w (start ++ before) t (by rwa [after_append])
    rw [last, ← first', own]
    exact h.found
  have there : (((first w).after start).after before).session.workshop.machine.hasScratch
      host.bench.scratch = true := by
    rw [h.sameRooms (fun e among => background e (List.mem_append_left _ among))]
    exact hasScratch_of_holds h.furnished start h.found h.held
  have removable := h.removable_after before t member _ (by rw [stopping]; rfl) retried c rfl
  obtain ⟨run', killed, response, ended, left⟩ :=
    (c.leftAt_cases removable
      (((first w).after start).after before).session.workshop.machine.clock).resolve_left something
  have late : (((first w).after start).after before).Late t (host.bench.placeOf c.unit) :=
    ⟨member, retried, c, host, run', killed, stopping, (h.steady_after before).hosts.symm ▸ found,
      rfl, there, response, ended, left ▸ Option.isSome_iff_ne_none.2 something⟩
  have stays := isSome_at?_land (h.ordered_after before).1 (h.ready_after before)
    (h.ledger_after before bound')
    (fun e among => background e (List.mem_append_right _ among))
    (by rw [← after_append, ← same]; exact bound) (.inl ⟨t, late⟩)
  rw [← after_append, ← same, untouched, h.vacant_at_first aborted same bound member stopping found
    early] at stays
  cases stays

/-- **The files are the same once runs have landed**, just in case whoever is told to stop does so in
time. -/
theorem untouched_iff (h : CleanSubmission w host start n r)
    (aborted : ((first w).after start).Aborted n r phase run order halts)
    (bound : (((first w).after start).after
      (run ++ order :: halts)).session.workshop.machine.attempts.length ≤ UInt64.size) :
    (∀ p, ((((first w).after start).after (run ++ order :: halts)).react
        .land).session.workshop.machine.at? p =
      ((first w).after start).session.workshop.machine.at? p) ↔
      ((first w).after start).Timely (run ++ order :: halts) := by
  constructor
  · exact h.timely_of_untouched aborted bound
  · intro timely p
    have further : ((first w).after start).after (run ++ order :: (halts ++ [.land])) =
        (((first w).after start).after (run ++ order :: halts)).react .land := by
      rw [← List.cons_append, ← List.append_assoc, after_append, after_cons, after_nil]
    have landing := timely.land
    rw [List.append_assoc, List.cons_append] at landing
    rw [← further]
    refine h.untouched aborted.land landing ?_ p
    rw [further, (quiet_react _ (e := .land) rfl).machine.attempts]
    exact bound

end CleanSubmission

/-- **What a request leaves that is aborted.** A request is submitted at any moment, what runs have
left is there by then, and it is told to stop before it ends: before it is taken up, or while it waits
for the compiler in its first attempt or in a later one. Once it has stopped, the templates, the
instances, the user's handles with all that they will return, and the outcomes of the requests that
were finished are what they were. It is superseded, its task never has a handle, before or after, and
for each attempt that it has begun one pair of names was taken and the compiler was started once.

If the compiler leaves nothing that cannot be removed, the files are what they were just in case
whoever was told to stop did so in time. A run that is over before its task stops is not killed, and
what it has left stays. -/
theorem aborts_exact {w : Workshop} (furnished : w.Furnished) (found : w.hosts[0]? = some host)
    (earlier : List Event) (expression label : String) :
    let m := (first w).after (earlier ++ [.land])
    let n := m.session.submitted
    let submitted := m.react (.submit expression label)
    ∀ phase run order halts, submitted.Aborted n ⟨0, expression⟩ phase run order halts →
      let later := run ++ order :: halts
      let m' := submitted.after later
      Fruitless m m' ⟨0, expression⟩ host phase.begun ∧
        (m'.session.take n).1 = some .superseded ∧
        (∀ events, events <+: later ∨ later <+: events →
          ∀ t, (submitted.after events).session.task? n = some t → t.state.handle = .null) ∧
        (w.machine.tool.Removable → m.session.holds 0 = true →
          m'.session.workshop.machine.attempts.length ≤ UInt64.size →
            (submitted.Timely later →
              ∀ p, m'.session.workshop.machine.at? p = m.session.workshop.machine.at? p) ∧
            ((∀ p, (m'.react .land).session.workshop.machine.at? p =
                m.session.workshop.machine.at? p) ↔ submitted.Timely later)) := by
  intro m n submitted phase run order halts aborted later m'
  have came : (first w).after ((earlier ++ [Event.land]) ++ [Event.submit expression label]) =
      submitted := by
    rw [after_append, after_cons, after_nil]
  have h := submission furnished (earlier ++ [Event.land]) found expression label
  have numbered : m.session.Numbered := numbered_after w (earlier ++ [Event.land])
  have kept := keeps_react (e := .submit expression label) numbered rfl
  rw [← came] at aborted
  have fruitless := h.fruitless aborted
  have superseded := h.superseded aborted
  have begun := h.queued.ordered.1
  rw [came] at fruitless superseded begun
  refine ⟨{ fruitless with toKeeps := kept.trans fruitless.toKeeps }, superseded,
    fun events comparable t there => handle_null begun superseded comparable there, ?_⟩
  intro removable held bound
  have grows : m.session.workshop.machine.attempts.length ≤
      m'.session.workshop.machine.attempts.length :=
    attempts_le_after furnished (earlier ++ [Event.land]) (.submit expression label :: later)
  have landed := landed_after furnished earlier (Nat.le_trans grows bound)
  have settled := settled_submit numbered landed expression label
  have clean : CleanSubmission w host ((earlier ++ [Event.land]) ++ [.submit expression label]) n
      ⟨0, expression⟩ := by
    refine ⟨h, removable, ?_, ?_⟩
    · rw [came]
      exact held
    · rw [came]
      exact settled
  have untouched := clean.untouched aborted
  have files := clean.untouched_iff aborted
  rw [came] at untouched files
  exact ⟨fun timely => untouched timely bound, files bound⟩

/-- What the compiler leaves whose first library cannot be loaded can be removed. -/
theorem removable_flaky (retries : UInt32) :
    (Workshop.bare flaky retries).machine.tool.Removable := by
  intro earlier call
  refine ⟨rfl, fun run product ended _ left => ?_⟩
  obtain rfl := Course.ended.inj ended
  obtain rfl := Option.some.inj left
  split <;> rfl

/-- A request is cancelled while it waits for the compiler in its second attempt. -/
theorem trace_of_cancelled :
    let run : List Event := [.proceed 0, .proceed 0]
    let halts : List Event := [.stop 0, .wait 5, .land]
    let m := (first (.bare flaky 3)).after ([] ++ [.land])
    let m' := (m.react (.submit "x" "a")).after (run ++ .cancel :: halts)
    Fruitless m m' ⟨0, "x"⟩ (Host.bare 3) 2 ∧ (m'.session.take 0).1 = some .superseded ∧
      m'.session.workshop.names.issued = 2 ∧
        ∀ p, m'.session.workshop.machine.at? p = m.session.workshop.machine.at? p := by
  intro run halts
  let submitted := ((first (.bare flaky 3)).after ([] ++ [.land])).react (.submit "x" "a")
  have stands : ((submitted.after run).standing? (.task 0)).map
      (fun s => (s.1, s.2.isDone, s.2.begun)) = some (⟨0, "x"⟩, false, 2) := by decide +kernel
  obtain ⟨⟨r, phase⟩, standing, waits⟩ := Option.map_eq_some_iff.1 stands
  simp only [Prod.mk.injEq] at waits
  obtain ⟨rfl, unfinished, begun⟩ := waits
  have timely : submitted.Timely (run ++ .cancel :: halts) := by decide +kernel
  have aborted : submitted.Aborted 0 ⟨0, "x"⟩ phase run .cancel halts :=
    ⟨by simp [run, Event.isRuntime], rfl, by simp [halts, Event.isHalt], by simp [halts], standing,
      unfinished⟩
  obtain ⟨fruitless, superseded, -, files⟩ :=
    aborts_exact (Workshop.furnished_bare flaky 3) rfl [] "x" "a" phase run .cancel halts aborted
  rw [begun] at fruitless
  exact ⟨fruitless, superseded, by decide +kernel,
    (files (removable_flaky 3) rfl (by decide +kernel)).1 timely⟩

/-- What the compiler leaves that always succeeds can be removed. -/
theorem removable_unhurried (retries : UInt32) :
    (Workshop.bare unhurried retries).machine.tool.Removable := by
  intro earlier call
  refine ⟨rfl, fun run product ended _ left => ?_⟩
  obtain rfl := Course.ended.inj ended
  obtain rfl := Option.some.inj left
  rfl

/-- **The library of an aborted request.** The request is cancelled while it waits for its first run of
the compiler, and stops when the run is over: nobody kills the run, and its library stays. -/
theorem library_of_cancelled :
    let run : List Event := [.proceed 0]
    let halts : List Event := [.wait 200, .stop 0, .land]
    let m := (first (.bare unhurried 0)).after ([] ++ [.land])
    let submitted := m.react (.submit "aaa + x" "a")
    let m' := submitted.after (run ++ .cancel :: halts)
    (Workshop.bare unhurried 0).Furnished ∧ (Workshop.bare unhurried 0).machine.tool.Removable ∧
      (∃ phase, submitted.Aborted 0 ⟨0, "aaa + x"⟩ phase run .cancel halts) ∧
        (m'.session.take 0).1 = some .superseded ∧ m.session.workshop.machine.fileNames 0 = some [] ∧
          m'.session.workshop.machine.fileNames 0 = some ["libfx_0_0000000000000000.so"] := by
  intro run halts m submitted m'
  have stands : ((submitted.after run).standing? (.task 0)).map (fun s => (s.1, s.2.isDone)) =
      some (⟨0, "aaa + x"⟩, false) := by decide +kernel
  obtain ⟨⟨r, phase⟩, standing, waits⟩ := Option.map_eq_some_iff.1 stands
  obtain ⟨rfl, unfinished⟩ := Prod.mk.inj waits
  have aborted : submitted.Aborted 0 ⟨0, "aaa + x"⟩ phase run .cancel halts :=
    ⟨by simp [run, Event.isRuntime], rfl, by simp [halts, Event.isHalt], by simp [halts], standing,
      unfinished⟩
  have submission := submission (Workshop.furnished_bare unhurried 0) [.land] rfl "aaa + x" "a"
  exact ⟨Workshop.furnished_bare unhurried 0, removable_unhurried 0, ⟨phase, aborted⟩,
    submission.superseded aborted, by decide +kernel, by decide +kernel⟩

end Moment

end Plotter
