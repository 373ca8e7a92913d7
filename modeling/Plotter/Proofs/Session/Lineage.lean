import Plotter.Proofs.Session.Tenants

/-!
# Which request a handle is of

A handle is given out once, by the request at whose end it is, and copied from slot to slot after
that. Nothing in a session keeps a record of this. Here a record is kept beside the session, from
one event to the next (`Lineage`): how many requests the user has waited for, and of which request
the handle in each slot is. It follows the events alone, not the handles.

A handle is held by a slot or by a client whose request is at its end (`Holder`).

## What is proved

* `Lineage.standing_before`: a client's request after an event is that of before, or one that the
  event brought.
* `Lineage.held_before`: a handle that is held after an event was held before it and is of the same
  request, or the event is the last step of the request.
-/

namespace Plotter

namespace Session

theorem slot_setSlot_eq (s : Session) (name : String) (handle : Handle) (name' : String) :
    (s.setSlot name handle).slot name' = if name' = name then handle else s.slot name' := by
  split
  · subst_vars
    exact s.slot_setSlot ..
  · rename_i other
    have skipped : (name' == name) = false := beq_eq_false_iff_ne.2 other
    simp only [slot, setSlot, List.lookup_cons, skipped,
      lookup_filter_ne other]

theorem slot_clearSlot_eq (s : Session) (name name' : String) :
    (s.clearSlot name).slot name' = if name' = name then .null else s.slot name' := by
  split
  · subst_vars
    exact s.slot_clearSlot ..
  · rename_i other
    simp only [slot, clearSlot, lookup_filter_ne other]

end Session

/-- A request that was made in a session. -/
inductive Origin
  /-- The user waited for it; it was that many requests which the user waited for by then. -/
  | asked (number : Nat)
  /-- It was submitted, and has a ticket. -/
  | submitted (ticket : Nat)
  deriving DecidableEq

/-- Where a handle can be. -/
inductive Holder
  /-- In a slot. -/
  | slot (name : String)
  /-- With a client whose request is at its end. -/
  | client (c : Client)

/-- The handle that is held somewhere. Where there is none, it is the null handle. -/
def Moment.held (m : Moment) : Holder → Handle
  | .slot name => m.session.slot name
  | .client c =>
    match m.standing? c with
    | some (_, phase) => phase.handle
    | none => .null

/-- What is on record of the requests: how many the user has waited for, and of which request the
handle in a slot is. -/
structure Lineage where
  asked : Nat := 0
  slots : String → Option Origin := fun _ => none

namespace Lineage

/-- A slot has a handle of a request, or of none. -/
def put (l : Lineage) (name : String) (origin : Option Origin) : Lineage :=
  { l with slots := fun name' => if name' = name then origin else l.slots name' }

/-- A handle of a request is put into a slot, if one is given. -/
def keep (l : Lineage) (origin : Origin) : Option String → Lineage
  | some slot => l.put slot (some origin)
  | none => l

/-- The request of a client. The user's is the latest that the user waited for. -/
def request (l : Lineage) : Client → Origin
  | .user => .asked l.asked
  | .task ticket => .submitted ticket

/-- The request of whose handle a holder has a copy. -/
def descent (l : Lineage) : Holder → Option Origin
  | .slot name => l.slots name
  | .client c => some (l.request c)

/-- The record after an event at a moment. -/
def react (l : Lineage) (m : Moment) : Event → Lineage
  | .ask _ =>
    match m.awaited with
    | none => { l with asked := l.asked + 1 }
    | some _ => l
  | .answer slot =>
    match m.awaited with
    | some (_, .done _) => l.keep (l.request .user) slot
    | _ => l
  | .collect ticket slot =>
    match (m.session.task? ticket).bind Task.outcome? with
    | some (.ready _) => l.keep (l.request (.task ticket)) slot
    | _ => l
  | .copy source target => l.put target (l.slots source)
  | .clear slot => l.put slot none
  | _ => l

/-- The record after some events that begin at a moment. -/
def after (l : Lineage) (m : Moment) : List Event → Lineage
  | [] => l
  | e :: es => (l.react m e).after (m.react e) es

theorem after_append (l : Lineage) (m : Moment) (es fs : List Event) :
    l.after m (es ++ fs) = (l.after m es).after (m.after es) fs := by
  induction es generalizing l m with
  | nil => rfl
  | cons e es ih => exact ih ..

/-- A request that was made by a moment. -/
def Made (l : Lineage) (m : Moment) : Origin → Prop
  | .asked number => number ≤ l.asked
  | .submitted ticket => ticket < m.session.submitted

variable {l : Lineage} {m : Moment} {e : Event} {c : Client} {r : Request} {phase : Phase}

theorem request_injective (l : Lineage) : Function.Injective l.request := by
  intro c c' same
  cases c <;> cases c' <;> simp_all [request]

theorem made_request (numbered : m.session.Numbered) (standing : m.standing? c = some (r, phase)) :
    l.Made m (l.request c) := by
  cases c with
  | user => exact Nat.le_refl _
  | task ticket =>
    obtain ⟨t, found, -⟩ := Moment.standing?_task.1 standing
    exact numbered.lt_of_task? found

/-! ### Events -/

@[simp] theorem asked_keep (l : Lineage) (origin : Origin) (slot : Option String) :
    (l.keep origin slot).asked = l.asked := by
  cases slot <;> rfl

theorem asked_react (unasked : e.isAsk = false) : (l.react m e).asked = l.asked := by
  cases e with
  | ask r => simp [Event.isAsk] at unasked
  | answer slot =>
    simp only [react]
    split <;> simp
  | collect ticket slot =>
    simp only [react]
    split <;> simp
  | _ => rfl

theorem asked_le_react : l.asked ≤ (l.react m e).asked := by
  cases ask : e.isAsk with
  | false => rw [asked_react ask]
  | true =>
    cases e with
    | ask r =>
      simp only [react]
      split
      · exact Nat.le_succ _
      · exact Nat.le_refl _
    | _ => simp [Event.isAsk] at ask

theorem react_of_isStep (step : e.isStep = true) : l.react m e = l := by
  cases e <;> first | rfl | simp [Event.isStep] at step

/-- A request that was made stays so. -/
theorem Made.react {origin : Origin} (h : l.Made m origin) (e : Event) :
    (l.react m e).Made (m.react e) origin := by
  cases origin with
  | asked number => exact Nat.le_trans h asked_le_react
  | submitted ticket => exact Nat.lt_of_lt_of_le h (by rw [m.submitted_react e]; omega)

/-- **Where a client's request comes from.** It came with an event and has not begun, or it was
there before and has perhaps taken a step. -/
theorem standing_before (numbered : m.session.Numbered) (l : Lineage) {phase' : Phase}
    (now : (m.react e).standing? c = some (r, phase')) :
    (phase' = .queued ∧ ¬l.Made m ((l.react m e).request c)) ∨
      ∃ phase, m.standing? c = some (r, phase) ∧ (l.react m e).request c = l.request c ∧
        if e.isStepOf c then
          m.session.workshop.advance r phase = (phase', (m.react e).session.workshop)
        else phase' = phase := by
  by_cases lasts : m.Lasts e c
  · obtain ⟨phase, before, step⟩ := Moment.standing?_before numbered lasts now
    refine .inr ⟨phase, before, ?_, step⟩
    cases c with
    | user => exact congrArg Origin.asked (asked_react lasts)
    | task ticket => rfl
  · cases c with
    | task ticket =>
      rcases Moment.standing?_of_new numbered lasts now with rfl | before
      · exact .inl ⟨rfl, lasts⟩
      · obtain ⟨t, found, -⟩ := Moment.standing?_task.1 before
        exact absurd (numbered.lt_of_task? found) lasts
    | user =>
      cases e with
      | ask r' =>
        -- A user who waits already cannot ask anew.
        cases awaited : m.awaited with
        | none =>
          simp only [Moment.standing?, Moment.react, awaited, Option.some.injEq,
            Prod.mk.injEq] at now
          refine .inl ⟨now.2.symm, ?_⟩
          simp [request, react, awaited, Made]
        | some standing =>
          simp only [Moment.standing?, Moment.react, awaited] at now
          exact .inr ⟨phase', awaited.trans now, by simp [request, react, awaited], rfl⟩
      | _ => exact absurd rfl lasts

/-! ### Holders -/

/-- What is in a slot, after a handle was put into one, was there or is that handle. -/
theorem held_keep (l : Lineage) {s : Session} (slots : s.slots = m.session.slots) {y : Holder}
    {e : Evaluation} {origin : Origin} (own : m.held y = e.handle)
    (record : l.descent y = some origin) (slot : Option String) (name : String) :
    ∃ y, m.held y = (s.keep e slot).slot name ∧
      l.descent y = (l.keep origin slot).descent (.slot name) := by
  have same : m.held (.slot name) = s.slot name := by
    simp only [Moment.held, Session.slot, slots]
  cases slot with
  | none => exact ⟨.slot name, same, rfl⟩
  | some slot =>
    simp only [Session.keep, Session.slot_setSlot_eq, keep, put, descent]
    split
    · exact ⟨y, own, record⟩
    · exact ⟨.slot name, same, rfl⟩

/-- What is in a slot stays there as long as the slots and what is on record of them do. -/
theorem held_of_slots (slots : (m.react e).session.slots = m.session.slots)
    (record : (l.react m e).slots = l.slots) (name : String) :
    ∃ y, m.held y = (m.react e).session.slot name ∧
      l.descent y = (l.react m e).descent (.slot name) := by
  refine ⟨.slot name, ?_, ?_⟩
  · simp only [Moment.held, Session.slot, slots]
  · simp only [descent, record]

/-- What is in a slot after an outcome was collected was there, or was held by the task. -/
theorem held_collect (l : Lineage) (m : Moment) (n : Nat) (slot : Option String) (name : String) :
    ∃ y, m.held y = (m.react (.collect n slot)).session.slot name ∧
      l.descent y = (l.react m (.collect n slot)).descent (.slot name) := by
  simp only [Moment.react, Session.collect_eq, react]
  cases taken : (m.session.task? n).bind Task.outcome? with
  | none => exact ⟨.slot name, rfl, rfl⟩
  | some outcome =>
    cases outcome with
    | superseded => exact ⟨.slot name, rfl, rfl⟩
    | ready e' =>
      have ready : (m.session.take n).1 = some (.ready e') := by
        unfold Session.take
        rw [taken]
      obtain ⟨r, standing, -⟩ := Moment.standing?_of_take ready
      have own : m.held (.client (.task n)) = e'.handle := by
        simp only [Moment.held, standing]
        rfl
      let s : Session :=
        { m.session with tasks := m.session.tasks.filter fun t => t.ticket != n }
      exact l.held_keep (s := s) (y := .client (.task n)) rfl own rfl slot name

/-- What is in a slot after the user took an answer was there, or is the answer's. -/
theorem held_answer (l : Lineage) (m : Moment) (slot : Option String) (name : String) :
    ∃ y, m.held y = (m.react (.answer slot)).session.slot name ∧
      l.descent y = (l.react m (.answer slot)).descent (.slot name) := by
  rcases awaited : m.awaited with _ | ⟨r, _ | _ | verdict⟩
  iterate 3
    refine held_of_slots ?_ ?_ name
    · simp only [Moment.react, awaited]
    · simp only [react, awaited]
  have own : m.held (.client .user) = (Evaluation.mk r.expression verdict).handle := by
    simp only [Moment.held, Moment.standing?, awaited]
    rfl
  simp only [Moment.react, react, awaited]
  exact l.held_keep (y := .client .user) rfl own rfl slot name

/-- What is in a slot after an event was held before it, and is of the same request. -/
theorem slot_before (l : Lineage) (m : Moment) (e : Event) (name : String) :
    (m.react e).session.slot name = .null ∨
      ∃ y, m.held y = (m.react e).session.slot name ∧
        l.descent y = (l.react m e).descent (.slot name) := by
  cases e with
  | stop n =>
    refine .inr (held_of_slots ?_ rfl name)
    exact Moment.slots_stop ..
  | proceed n =>
    refine .inr (held_of_slots ?_ rfl name)
    exact Moment.slots_proceed ..
  | collect n slot => exact .inr (l.held_collect m n slot name)
  | answer slot => exact .inr (l.held_answer m slot name)
  | ask r =>
    refine .inr (held_of_slots ?_ ?_ name)
    · simp only [Moment.react]
      split <;> rfl
    · simp only [react]
      split <;> rfl
  | pursue =>
    refine .inr (held_of_slots ?_ rfl name)
    simp only [Moment.react]
    split <;> rfl
  | forsake =>
    refine .inr (held_of_slots ?_ rfl name)
    simp only [Moment.react]
    split <;> rfl
  | reclaim =>
    refine .inr (held_of_slots ?_ rfl name)
    simp only [Moment.react]
    split <;> rfl
  | copy source target =>
    simp only [Moment.react, Session.slot_setSlot_eq, react, put, descent]
    split
    · exact .inr ⟨.slot source, rfl, rfl⟩
    · exact .inr ⟨.slot name, rfl, rfl⟩
  | clear slot =>
    simp only [Moment.react, Session.slot_clearSlot_eq, react, put, descent]
    split
    · exact .inl rfl
    · exact .inr ⟨.slot name, rfl, rfl⟩
  | _ => exact .inr (held_of_slots rfl rfl name)

/-- **Where a handle comes from.** It was held before an event and is of the same request, or the
event is the step of the request that is at its end with it. -/
theorem held_before (numbered : m.session.Numbered) (l : Lineage) (e : Event) (x : Holder) :
    (m.react e).held x = .null ∨
      (∃ y, m.held y = (m.react e).held x ∧ l.descent y = (l.react m e).descent x) ∨
      ∃ c r phase phase', x = .client c ∧ e.isStepOf c = true ∧
        m.standing? c = some (r, phase) ∧
        m.session.workshop.advance r phase = (phase', (m.react e).session.workshop) ∧
        (m.react e).held x = phase'.handle := by
  cases x with
  | slot name => exact (l.slot_before m e name).imp_right .inl
  | client c =>
    cases now : (m.react e).standing? c with
    | none => exact .inl (by simp only [Moment.held, now])
    | some standing =>
      obtain ⟨r, phase'⟩ := standing
      have held : (m.react e).held (.client c) = phase'.handle := by simp only [Moment.held, now]
      rcases standing_before numbered l now with ⟨rfl, -⟩ | ⟨phase, before, same, step⟩
      · exact .inl held
      · split at step
        · rename_i mine
          exact .inr (.inr ⟨c, r, phase, phase', rfl, mine, before, step, held⟩)
        · subst step
          refine .inr (.inl ⟨.client c, ?_, congrArg some same.symm⟩)
          rw [held]
          simp only [Moment.held, before]

end Lineage

end Plotter
