import Plotter.Proofs.Request.Trial

/-!
# Masked expressions

Two requests to one host differ in their expressions. What must not depend on the expressions is
what is left of things when these are masked: the sources that are made of expressions are left out,
and an expression goes by another name, the same for both. The times may be masked too: how long
runs take, and what the time is.

All that is done in a workshop, but to call the compiler, can as well be done with the expressions
masked. The compiler alone sees the sources. Where it answers two requests alike
(`Machine.AnsweredAlike`), a step of one and a step of the other are the same when masked. Runs that
take different times are alike if times are masked; and only whether a run is over, when it is
killed or landed, is a matter of times.

## What is proved

* `SourceUnit.masked_fill`: when masked, a unit is the same for all expressions.
* `Workshop.masked_advance`: steps of two requests that are the same when masked are the same when
  masked, if the compiler answers them alike.
-/

namespace Plotter

/-- How expressions are masked: each goes by another name. The times are kept or not. -/
structure ExpressionMask where
  name : String → String
  timed : Bool

namespace ExpressionMask

/-- What a mask leaves of a time. -/
def time (v : ExpressionMask) (t : Nat) : Nat := bif v.timed then t else 0

variable {v : ExpressionMask} {a a' b b' : Nat}

theorem eq_of_timed (timed : v.timed = true) : ∃ name, v = ⟨name, true⟩ :=
  ⟨v.name, congrArg (ExpressionMask.mk v.name) timed⟩

theorem time_add (first : v.time a = v.time a') (second : v.time b = v.time b') :
    v.time (a + b) = v.time (a' + b') := by
  obtain ⟨name, timed⟩ := v
  cases timed <;> simp_all [time]

theorem time_max (first : v.time a = v.time a') (second : v.time b = v.time b') :
    v.time (max a b) = v.time (max a' b') := by
  obtain ⟨name, timed⟩ := v
  cases timed <;> simp_all [time]

end ExpressionMask

variable (v : ExpressionMask)

/-! ### Units and calls -/

/-- A unit without its source. -/
def SourceUnit.masked (u : SourceUnit) : SourceUnit := { u with source := "" }

/-- When masked, a unit is the same for all expressions. -/
theorem SourceUnit.masked_fill (template : Template) (names : UnitNames)
    (expression expression' : String) :
    (fill template names expression).masked = (fill template names expression').masked := rfl

/-- A call without its source. -/
def Call.masked (c : Call) : Call := { c with source := "" }

def Attempt.masked (a : Attempt) : Attempt := { a with call := a.call.masked }

/-- What is on record of an attempt may come of the compiler, asked after the earlier attempts. If
the compiler's program cannot be started, it need not. -/
def Attempt.AnsweredBy (a : Attempt) (t : Tool) (earlier : List Attempt) : Prop :=
  a.started = (t.respond earlier a.call).isStarted

theorem Attempt.length_calls_masked (attempts : List Attempt) :
    ((attempts.map Attempt.masked).filter (·.started)).length =
      (attempts.filter (·.started)).length := by
  rw [List.filter_map, List.length_map]
  rfl

def Run.masked (run : Run) : Run := { run with elapsed := v.time run.elapsed }

def Course.masked : Course → Course
  | .endless => .endless
  | .deaf fault => .deaf fault
  | .ended run => .ended (run.masked v)

def Response.masked : Response → Response
  | .unstarted fault => .unstarted fault
  | .started course killed => .started (course.masked v) killed

@[simp] theorem Response.isStarted_masked (r : Response) : (r.masked v).isStarted = r.isStarted := by
  cases r <;> rfl

/-- Answers that are the same when masked are of one kind, and differ in how long their runs took at
most. -/
inductive Response.EqButTime : Response → Response → Prop
  | unstarted (fault : SystemFault) : EqButTime (.unstarted fault) (.unstarted fault)
  | endless (killed : Option Product) : EqButTime (.started .endless killed) (.started .endless killed)
  | deaf (fault : SystemFault) (killed : Option Product) :
      EqButTime (.started (.deaf fault) killed) (.started (.deaf fault) killed)
  | ended {run run' : Run} (killed : Option Product) (runs : run.masked v = run'.masked v) :
      EqButTime (.started (.ended run) killed) (.started (.ended run') killed)

theorem Response.eqButTime_of_masked {v : ExpressionMask} {r r' : Response}
    (same : r.masked v = r'.masked v) : r.EqButTime v r' := by
  cases r with
  | unstarted fault =>
    cases r' with
    | unstarted fault' =>
      obtain rfl := Response.unstarted.inj same
      exact .unstarted fault
    | started course' killed' => simp [masked] at same
  | started course killed =>
    cases r' with
    | unstarted fault' => simp [masked] at same
    | started course' killed' =>
      obtain ⟨courses, rfl⟩ := Response.started.inj same
      cases course <;> cases course' <;> simp only [Course.masked, reduceCtorEq] at courses
      · exact .endless killed
      · obtain rfl := Course.deaf.inj courses
        exact .deaf _ killed
      · exact .ended killed (Course.ended.inj courses)

def Compilation.masked (c : Compilation) : Compilation :=
  ⟨c.unit.masked, c.response.masked v, v.time c.began⟩

namespace Compilation

variable {v} {c c' : Compilation}

/-- Calls that are the same when masked are over at times that are. -/
theorem time_due_of_masked (same : c.masked v = c'.masked v) :
    v.time (c.due?.getD 0) = v.time (c'.due?.getD 0) := by
  obtain ⟨unit, response, began⟩ := c
  obtain ⟨unit', response', began'⟩ := c'
  obtain ⟨-, responses, begun⟩ := Compilation.mk.inj same
  have begun : v.time began = v.time began' := begun
  have later (elapsed elapsed' : Nat) (same : v.time elapsed = v.time elapsed') :
      v.time (began + elapsed + 1) = v.time (began' + elapsed' + 1) :=
    ExpressionMask.time_add (ExpressionMask.time_add begun same) rfl
  cases Response.eqButTime_of_masked responses with
  | unstarted fault => exact begun
  | endless killed => rfl
  | deaf fault killed => exact later 0 0 rfl
  | ended killed runs => exact later _ _ (congrArg Run.elapsed runs)

/-- What a call has left is a matter of times only if it comes to an end. -/
theorem leftAt_masked (known : v.timed = true ∨ c.due? = none) (time : Nat) :
    (c.masked v).leftAt (v.time time) = c.leftAt time := by
  obtain ⟨unit, response, began⟩ := c
  cases response with
  | unstarted fault => rfl
  | started course killed =>
    cases course with
    | ended run =>
      rcases known with timed | endless
      · obtain ⟨name, rfl⟩ := ExpressionMask.eq_of_timed timed
        rfl
      · simp [due?, Course.elapsed?] at endless
    | _ => rfl

end Compilation

/-! ### Machines -/

/-- A notice without its expression. -/
def Notice.masked : Notice → Notice
  | .failed expression failure => .failed (v.name expression) failure
  | notice => notice

theorem Notice.masked_ofFailure? (expression : String) (failure : Failure) :
    ofFailure? (v.name expression) failure =
      (ofFailure? expression failure).map (Notice.masked v) := by
  cases failure <;> rfl

/-- A machine without the sources and expressions that it saw, nor the time if that is hidden. -/
def Machine.masked (m : Machine) : Machine :=
  { m with
    clock := v.time m.clock
    attempts := m.attempts.map Attempt.masked
    notices := m.notices.map (Notice.masked v) }

namespace Machine

variable {v} {m m' : Machine}

theorem masked_leave (number : Nat) (file : String) (left : Option Product) :
    (m.leave number file left).masked v = (m.masked v).leave number file left := by
  cases left <;> rfl

theorem masked_discard (number : Nat) (file : String) :
    (m.discard number file).masked v = (m.masked v).discard number file := by
  have same : (m.masked v).product? number file = m.product? number file := rfl
  rw [discard, discard, same]
  cases m.product? number file with
  | none => rfl
  | some p => cases p <;> rfl

theorem clock_of_masked (look : m.masked v = m'.masked v) : v.time m.clock = v.time m'.clock := by
  show (m.masked v).clock = (m'.masked v).clock
  rw [look]

theorem masked_waitUntil (look : m.masked v = m'.masked v) {time time' : Nat}
    (same : v.time time = v.time time') :
    (m.waitUntil time).masked v = (m'.waitUntil time').masked v := by
  have waited (m : Machine) (time : Nat) : (m.waitUntil time).masked v =
      { m.masked v with clock := v.time (max m.clock time) } := rfl
  rw [waited, waited, look, ExpressionMask.time_max (clock_of_masked look) same]

/-- Of the attempts on two machines, the compiler answers each as it answers the one that has as many
before it. What it is to answer alike is a relation of answers. -/
def Answered (R : Response → Response → Prop) (m m' : Machine) : Prop :=
  ∀ ⦃a a' : Attempt⦄ ⦃earlier earlier' : List Attempt⦄, a :: earlier <:+ m.attempts →
    a' :: earlier' <:+ m'.attempts → earlier.length = earlier'.length →
      a.AnsweredBy m.tool earlier → a'.AnsweredBy m'.tool earlier' →
        R (m.tool.respond earlier a.call) (m'.tool.respond earlier' a'.call)

section

variable {R : Response → Response → Prop}

/-- What is answered alike to the end is so before. -/
theorem Answered.of_steady {m₀ m₀' : Machine} (h : Answered R m m') (steady : m₀.Steady m)
    (steady' : m₀'.Steady m') : Answered R m₀ m₀' := by
  intro a a' earlier earlier' known known' length answered answered'
  rw [← steady.tool, ← steady'.tool] at *
  exact h (known.trans steady.recorded) (known'.trans steady'.recorded) length answered answered'

/-- A compiler that does nothing but count its calls answers the same on every machine. -/
theorem answered_of_counting (refl : ∀ answer, R answer answer) (tool : m'.tool = m.tool)
    (counts : ∀ {earlier earlier' : List Attempt} (call call' : Call),
      earlier.length = earlier'.length →
        m.tool.respond earlier call = m.tool.respond earlier' call') : Answered R m m' := by
  intro a a' earlier earlier' _ _ length _ _
  rw [tool, counts a.call a'.call length]
  exact refl _

/-- **Calls that have as many before them are answered alike**, where the same programs can be
started, and a zero character is among the arguments of both or of neither. -/
theorem Answered.respond {program : String} {call call' : Call}
    (alike : Answered R (m.call program call).2 (m'.call program call').2)
    (refl : ∀ answer, R answer answer)
    (started : m.startIn call.directory program = m'.startIn call'.directory program)
    (counted : m.attempts.length = m'.attempts.length)
    (zeros : (call.arguments.any fun a => a.toList.contains '\x00') =
      call'.arguments.any fun a => a.toList.contains '\x00') :
    R (m.respond program call) (m'.respond program call') := by
  by_cases zero : (call.arguments.any fun a => a.toList.contains '\x00') = true
  · rw [Machine.respond, Machine.respond, ← zeros, if_pos zero, if_pos zero]
    exact refl _
  · cases begun : m.startIn call.directory program with
    | error fault =>
      rw [Machine.respond, Machine.respond, ← zeros, if_neg zero, if_neg zero, ← started, begun]
      exact refl _
    | ok u =>
      -- The compiler is asked by both, and what is on record is what it answered.
      have own : m.respond program call = m.tool.respond m.attempts call := by
        rw [Machine.respond, if_neg zero, begun]
      have other : m'.respond program call' = m'.tool.respond m'.attempts call' := by
        rw [Machine.respond, ← zeros, if_neg zero, ← started, begun]
      rw [own, other]
      exact alike (List.suffix_refl _) (List.suffix_refl _) counted
        (congrArg Response.isStarted own) (congrArg Response.isStarted other)

end

/-- The compiler answers alike if its answers are the same when masked. -/
def AnsweredAlike (m m' : Machine) (v : ExpressionMask) : Prop :=
  ∀ ⦃a a' : Attempt⦄ ⦃earlier earlier' : List Attempt⦄, a :: earlier <:+ m.attempts →
    a' :: earlier' <:+ m'.attempts → earlier.length = earlier'.length →
      a.AnsweredBy m.tool earlier → a'.AnsweredBy m'.tool earlier' →
        (m.tool.respond earlier a.call).masked v = (m'.tool.respond earlier' a'.call).masked v

/-- What is answered alike to the end is so before. -/
theorem AnsweredAlike.of_steady {m₀ m₀' : Machine} (h : m.AnsweredAlike m' v)
    (steady : m₀.Steady m) (steady' : m₀'.Steady m') : m₀.AnsweredAlike m₀' v :=
  Answered.of_steady (R := fun answer answer' => answer.masked v = answer'.masked v) h steady steady'

/-- A compiler that does nothing but count its calls answers alike. -/
theorem alike_of_counting (tool : m'.tool = m.tool)
    (counts : ∀ {earlier earlier' : List Attempt} (call call' : Call),
      earlier.length = earlier'.length →
        m.tool.respond earlier call = m.tool.respond earlier' call') : m.AnsweredAlike m' v :=
  answered_of_counting (R := fun answer answer' => answer.masked v = answer'.masked v) (fun _ => rfl) tool
    counts

variable {call call' : Call} {program : String}

theorem startIn_of_masked (look : m.masked v = m'.masked v) (directory program : String) :
    m.startIn directory program = m'.startIn directory program := by
  show (m.masked v).startIn directory program = (m'.masked v).startIn directory program
  rw [look]

/-- Calls that are the same when masked are answered the same. -/
theorem respond_alike (look : m.masked v = m'.masked v) (same : call.masked = call'.masked)
    (alike : (m.call program call).2.AnsweredAlike (m'.call program call').2 v) :
    (m.respond program call).masked v = (m'.respond program call').masked v := by
  have arguments : call.arguments = call'.arguments := by
    show call.masked.arguments = call'.masked.arguments
    rw [same]
  have directory : call.directory = call'.directory := by
    show call.masked.directory = call'.masked.directory
    rw [same]
  have length : m.attempts.length = m'.attempts.length := by
    simpa [Machine.masked] using congrArg (fun m => m.attempts.length) look
  exact Answered.respond (R := fun answer answer' => answer.masked v = answer'.masked v) alike
    (fun _ => rfl) (by rw [← directory]; exact startIn_of_masked look _ _) length
    (by rw [arguments])

theorem masked_call (look : m.masked v = m'.masked v) (same : call.masked = call'.masked)
    (alike : (m.call program call).2.AnsweredAlike (m'.call program call').2 v) :
    (m.call program call).2.masked v = (m'.call program call').2.masked v := by
  have recorded (m : Machine) (call : Call) : (m.call program call).2.masked v =
      { m.masked v with
        clock := v.time (m.clock + 1)
        attempts := ⟨call.masked, (m.respond program call).isStarted⟩ :: (m.masked v).attempts } := rfl
  have started := congrArg Response.isStarted (respond_alike look same alike)
  rw [Response.isStarted_masked, Response.isStarted_masked] at started
  rw [recorded, recorded, look, same, started, ExpressionMask.time_add (clock_of_masked look) rfl]

end Machine

/-! ### Benches -/

def BuiltUnit.masked (built : BuiltUnit) : BuiltUnit :=
  { built with elapsed := v.time built.elapsed }

namespace Bench

variable {v} {m m' : Machine} (b : Bench)

theorem masked_load (m : Machine) (names : UnitNames) :
    b.load (m.masked v) names = ((b.load m names).1, (b.load m names).2.masked v) := by
  have path : b.libraryPath (m.masked v) names = b.libraryPath m names := rfl
  have left (file : String) : (m.masked v).product? b.scratch file = m.product? b.scratch file := rfl
  simp only [load, path, left]
  split
  · rfl
  · rw [Machine.masked_discard]

theorem masked_finishRun (m : Machine) (unit : SourceUnit) (run : Run) :
    b.finishRun (m.masked v) unit.masked (run.masked v) =
      ((b.finishRun m unit run).1.map (BuiltUnit.masked v), (b.finishRun m unit run).2.masked v) := by
  have names : unit.masked.names = unit.names := rfl
  have start : unit.masked.start = unit.start := rfl
  have left : b.leave (m.masked v) unit.masked (run.masked v).left = (b.leave m unit run.left).masked v :=
    (Machine.masked_leave ..).symm
  have found (m : Machine) (file : String) :
      (m.masked v).product? b.scratch file = m.product? b.scratch file := rfl
  have compiled (p : Option Product) : (run.masked v).compiled p = run.compiled p := rfl
  simp only [finishRun, names, start, left, found, compiled, masked_load]
  split
  · generalize b.load (b.leave m unit run.left) unit.names = loaded
    obtain ⟨result, machine⟩ := loaded
    cases result <;> rfl
  · rfl

/-- What the ends of two calls make of their units does not come of the sources. -/
theorem masked_finish? (look : m.masked v = m'.masked v) {c c' : Compilation}
    (same : c.masked v = c'.masked v) :
    (b.finish? m c).map (fun (built, m) => (built.map (BuiltUnit.masked v), m.masked v)) =
      (b.finish? m' c').map fun (built, m) => (built.map (BuiltUnit.masked v), m.masked v) := by
  have waited := Machine.masked_waitUntil look (Compilation.time_due_of_masked same)
  obtain ⟨units, responses, -⟩ := Compilation.mk.inj same
  simp only [finish?]
  generalize m.waitUntil _ = m at waited ⊢
  generalize m'.waitUntil _ = m' at waited ⊢
  generalize c.response = response at responses ⊢
  generalize c'.response = response' at responses ⊢
  cases Response.eqButTime_of_masked responses with
  | unstarted fault => exact congrArg (fun m => some (Except.error _, m)) waited
  | endless killed => rfl
  | deaf fault killed =>
    have left (m : Machine) (unit : SourceUnit) :
        (b.leave m unit killed).masked v = b.leave (m.masked v) unit.masked killed :=
      Machine.masked_leave ..
    show some (_, (b.leave m c.unit killed).masked v) = some (_, (b.leave m' c'.unit killed).masked v)
    rw [left, left, waited, units]
  | ended killed runs =>
    simp only [Option.map_some]
    rw [← masked_finishRun, ← masked_finishRun, waited, units, runs]

theorem masked_drop {c : Compilation} (known : v.timed = true ∨ c.due? = none) :
    (b.drop m c).masked v = b.drop (m.masked v) (c.masked v) := by
  show (m.leave _ _ (c.leftAt m.clock)).masked v =
    (m.masked v).leave _ _ ((c.masked v).leftAt (v.time m.clock))
  rw [Machine.masked_leave, Compilation.leftAt_masked known]
  rfl

theorem masked_land (timed : v.timed = true) (c : Compilation) :
    (b.land m c).masked v = b.land (m.masked v) (c.masked v) := by
  obtain ⟨name, rfl⟩ := ExpressionMask.eq_of_timed timed
  obtain ⟨unit, response, began⟩ := c
  cases response with
  | unstarted fault => rfl
  | started course killed =>
    cases course with
    | ended run =>
      have left := Machine.masked_leave (v := ⟨name, true⟩) (m := m) b.scratch
        (Settings.libraryFile unit.names) run.left
      let c : Compilation := ⟨unit, .started (.ended run) killed, began⟩
      show (if c.isOver m.clock = true then b.leave m unit run.left else m).masked _ =
        if c.isOver m.clock = true then b.leave (m.masked _) unit.masked run.left else m.masked _
      split
      · exact left
      · rfl
    | _ => rfl

end Bench

/-! ### Requests -/

/-- A request without its expression. -/
def Request.masked (r : Request) : Request := { r with expression := v.name r.expression }

def Verdict.masked : Verdict → Verdict
  | .made number unit warnings elapsed => .made number unit warnings (v.time elapsed)
  | .failed failure => .failed failure

def Phase.masked : Phase → Phase
  | .queued => .queued
  | .compiling retried c => .compiling retried (c.masked v)
  | .done verdict => .done (verdict.masked v)

@[simp] theorem Phase.isDone_masked (phase : Phase) : (phase.masked v).isDone = phase.isDone := by
  cases phase <;> rfl

/-- A workshop with the expressions masked. -/
def Workshop.masked (w : Workshop) : Workshop := { w with machine := w.machine.masked v }

namespace Workshop

variable {v} {w w' : Workshop} {r r' : Request} {host : Host} {template : Template}

theorem masked_note (notice : Notice) :
    (w.note notice).masked v = (w.masked v).note (notice.masked v) := rfl

theorem masked_noteFailure (expression : String) (failure : Failure) :
    (w.noteFailure expression failure).masked v =
      (w.masked v).noteFailure (v.name expression) failure := by
  rw [noteFailure, noteFailure, Notice.masked_ofFailure?]
  cases Notice.ofFailure? expression failure <;> rfl

theorem masked_fail (failure : Failure) :
    (w.fail r failure).2.masked v = ((w.masked v).fail (r.masked v) failure).2 :=
  masked_noteFailure r.expression failure

theorem masked_instantiate (bench : Bench) (names : UnitNames) (built : BuiltUnit) :
    (w.masked v).instantiate bench names (built.masked v) =
      ((w.instantiate bench names built).1.map (Verdict.masked v),
        (w.instantiate bench names built).2.masked v) := by
  have loaded : (built.masked v).loaded = built.loaded := rfl
  simp only [instantiate, loaded]
  cases built.loaded.instantiate with
  | ok body => rfl
  | error failure =>
    have gone : (bench.unload w.machine names).masked v = bench.unload (w.machine.masked v) names :=
      Machine.masked_discard ..
    exact congrArg (fun machine => (Except.error failure, { w with machine })) gone.symm

theorem masked_settle (host : Host) (unit : SourceUnit) (built : Except Failure BuiltUnit) :
    (w.masked v).settle host unit.masked (built.map (BuiltUnit.masked v)) =
      ((w.settle host unit built).1.map (Verdict.masked v), (w.settle host unit built).2.masked v) := by
  cases built with
  | ok built => exact masked_instantiate ..
  | error failure => rfl

/-- What is left of a request that is given up is a matter of times only if its run ends. -/
theorem masked_abandon {phase : Phase} (known : v.timed = true ∨ phase.due? = none) :
    (w.abandon r phase).masked v = (w.masked v).abandon (r.masked v) (phase.masked v) := by
  have found : (w.masked v).hosts[(r.masked v).host]? = w.hosts[r.host]? := rfl
  simp only [abandon, found]
  cases w.hosts[r.host]? with
  | none => cases phase <;> rfl
  | some host =>
    cases phase with
    | compiling retried c =>
      exact congrArg (fun machine => { w with machine }) (host.bench.masked_drop known)
    | _ => rfl

theorem masked_land (timed : v.timed = true) (phase : Phase) :
    (w.land r phase).masked v = (w.masked v).land (r.masked v) (phase.masked v) := by
  have found : (w.masked v).hosts[(r.masked v).host]? = w.hosts[r.host]? := rfl
  simp only [land, found]
  cases w.hosts[r.host]? with
  | none => cases phase <;> rfl
  | some host =>
    cases phase with
    | compiling retried c =>
      exact congrArg (fun machine => { w with machine }) (host.bench.masked_land timed c)
    | _ => rfl

theorem masked_call (handle : Handle) (x : Float) :
    (w.masked v).call handle x = ((w.call handle x).1, (w.call handle x).2.masked v) := by
  cases handle with
  | null => rfl
  | compiled number unit =>
    have found : (w.masked v).resident? number = w.resident? number := rfl
    rw [call, call, found]
    cases w.resident? number <;> rfl

theorem masked_callAll (handle : Handle) (xs : List Float) :
    (w.masked v).callAll handle xs = ((w.callAll handle xs).1, (w.callAll handle xs).2.masked v) := by
  induction xs generalizing w with
  | nil => rfl
  | cons x xs ih => rw [callAll_cons, callAll_cons, masked_call, ih]

theorem masked_release (inUse : Nat → Bool) :
    (w.release inUse).masked v = (w.masked v).release inUse := by
  have gone (residents : List Resident) (m : Machine) :
      (residents.foldl (fun m r => m.discard r.scratch r.file) m).masked v =
        residents.foldl (fun m r => m.discard r.scratch r.file) (m.masked v) := by
    induction residents generalizing m with
    | nil => rfl
    | cons r residents ih => rw [List.foldl_cons, List.foldl_cons, ih, Machine.masked_discard]
  let parts := w.residents.partition fun r => inUse r.number
  exact congrArg (fun machine => { w with machine, residents := parts.1 }) (gone parts.2 w.machine)

/-! ### Steps of two requests -/

/-- Two failures come to the same but for the expressions. -/
theorem masked_fail_eq (look : w.masked v = w'.masked v) (same : r.masked v = r'.masked v)
    (failure : Failure) : (w.fail r failure).1.masked v = (w'.fail r' failure).1.masked v ∧
      (w.fail r failure).2.masked v = (w'.fail r' failure).2.masked v := by
  rw [masked_fail, masked_fail, look, same]
  exact ⟨rfl, rfl⟩

/-- Two attempts begin in the same way but for the sources. -/
theorem masked_commence (look : w.masked v = w'.masked v) (host : Host) (template : Template)
    (retried : UInt32)
    (alike : (w.commence r host template retried).begun.machine.AnsweredAlike
      (w'.commence r' host template retried).begun.machine v) :
    (w.commence r host template retried).compilation.masked v =
        (w'.commence r' host template retried).compilation.masked v ∧
      (w.commence r host template retried).begun.masked v =
        (w'.commence r' host template retried).begun.masked v := by
  have names : w.names = w'.names := congrArg (·.names) look
  have machine : w.machine.masked v = w'.machine.masked v := congrArg (·.machine) look
  let unit := SourceUnit.fill template w.names.next.1 r.expression
  let unit' := SourceUnit.fill template w'.names.next.1 r'.expression
  have units : unit.masked = unit'.masked := by
    show unit.masked = (SourceUnit.fill template w'.names.next.1 r'.expression).masked
    rw [← names]
    exact SourceUnit.masked_fill ..
  have call (w : Workshop) (unit : SourceUnit) : (host.bench.callFor w.machine unit).masked =
      (host.bench.callFor (w.machine.masked v) unit.masked).masked := rfl
  have calls : (host.bench.callFor w.machine unit).masked =
      (host.bench.callFor w'.machine unit').masked := by
    rw [call, call, machine, units]
  have clock : v.time (w.machine.clock + 1) = v.time (w'.machine.clock + 1) :=
    ExpressionMask.time_add (Machine.clock_of_masked machine) rfl
  have response := Machine.respond_alike machine calls alike
  have called := Machine.masked_call machine calls alike
  constructor
  · simp only [commence, Bench.call_eq, Compilation.masked, Compilation.mk.injEq]
    exact ⟨units, response, clock⟩
  · have begun (w : Workshop) (r : Request) :
        (w.commence r host template retried).begun.masked v =
          { w.masked v with
            names := w.names.next.2
            machine := (w.machine.call host.bench.toolchain.path (host.bench.callFor w.machine
              (SourceUnit.fill template w.names.next.1 r.expression))).2.masked v } := rfl
    rw [begun, begun, look, called, names]

/-- Two attempts that are answered alike come to the same but for the sources and expressions. -/
theorem masked_attempt (look : w.masked v = w'.masked v) (same : r.masked v = r'.masked v)
    (found : w.hosts[r.host]? = some host) (kept : host.templates.kept = some template)
    (retried : UInt32)
    (alike : (w.attempt r host retried).2.machine.AnsweredAlike
      (w'.attempt r' host retried).2.machine v) :
    (w.attempt r host retried).1.masked v = (w'.attempt r' host retried).1.masked v ∧
      (w.attempt r host retried).2.masked v = (w'.attempt r' host retried).2.masked v := by
  have found' : w'.hosts[r'.host]? = some host := by
    show (w'.masked v).hosts[(r'.masked v).host]? = some host
    rw [← look, ← same]
    exact found
  have commenced (alike : (w.commence r host template retried).begun.machine.AnsweredAlike
      (w'.commence r' host template retried).begun.machine v) :=
    masked_commence look host template retried alike
  rw [attempt_eq found kept, attempt_eq found' kept] at alike ⊢
  generalize w.commence r host template retried = start at commenced alike ⊢
  generalize w'.commence r' host template retried = start' at commenced alike ⊢
  have onward (r : Request) (s : Start) : s.begun.machine.Steady
      (match s.compilation.response with
      | .unstarted fault =>
        s.begun.fail r (.toolchain (.unstartable host.bench.toolchain.path fault))
      | .started .. => (.compiling retried s.compilation, s.begun)).2.machine := by
    split
    · exact (quiet_fail ..).steady.machine
    · exact .refl _
  obtain ⟨compilations, begun⟩ := commenced (alike.of_steady (onward r start) (onward r' start'))
  have responses : start.compilation.response.masked v = start'.compilation.response.masked v := by
    show (start.compilation.masked v).response = (start'.compilation.masked v).response
    rw [compilations]
  generalize start.compilation.response = response at responses ⊢
  generalize start'.compilation.response = response' at responses ⊢
  cases Response.eqButTime_of_masked responses with
  | unstarted fault => exact masked_fail_eq begun same _
  | _ => exact ⟨congrArg (Phase.compiling retried) compilations, begun⟩

/-- What is made of two compilations that are the same when masked comes to the same. -/
theorem masked_conclude (look : w.masked v = w'.masked v) (same : r.masked v = r'.masked v)
    (found : w.hosts[r.host]? = some host) (kept : host.templates.kept = some template)
    (retried : UInt32) {result result' : Except Failure Verdict}
    (results : result.map (Verdict.masked v) = result'.map (Verdict.masked v))
    (alike : (w.conclude r host retried result).2.machine.AnsweredAlike
      (w'.conclude r' host retried result').2.machine v) :
    (w.conclude r host retried result).1.masked v = (w'.conclude r' host retried result').1.masked v ∧
      (w.conclude r host retried result).2.masked v =
        (w'.conclude r' host retried result').2.masked v := by
  rcases result with failure | verdict <;> rcases result' with failure' | verdict'
  · obtain rfl := Except.error.inj results
    simp only [conclude] at alike ⊢
    split at alike
    · rename_i again
      rw [if_pos again, if_pos again]
      have noted : (w.note (.retrying failure)).masked v = (w'.note (.retrying failure)).masked v := by
        rw [masked_note, masked_note, look]
      exact masked_attempt noted same found kept _ alike
    · rename_i last
      rw [if_neg last, if_neg last]
      exact masked_fail_eq look same failure
  · simp [Except.map] at results
  · simp [Except.map] at results
  · exact ⟨congrArg Phase.done (Except.ok.inj results), look⟩

/-- **Steps of two requests that are the same when masked are the same when masked**, if the compiler
answers them alike. -/
theorem masked_advance (ready : w.Ready) (look : w.masked v = w'.masked v)
    (same : r.masked v = r'.masked v) {phase phase' : Phase}
    (phases : phase.masked v = phase'.masked v)
    (alike : (w.advance r phase).2.machine.AnsweredAlike (w'.advance r' phase').2.machine v) :
    (w.advance r phase).1.masked v = (w'.advance r' phase').1.masked v ∧
      (w.advance r phase).2.masked v = (w'.advance r' phase').2.masked v := by
  have hosts : w'.hosts[r'.host]? = w.hosts[r.host]? := by
    show (w'.masked v).hosts[(r'.masked v).host]? = (w.masked v).hosts[(r.masked v).host]?
    rw [look, same]
  cases found : w.hosts[r.host]? with
  | none =>
    simp only [advance, hosts, found]
    exact ⟨phases, look⟩
  | some host =>
    obtain ⟨template, kept⟩ := ready host (List.mem_of_getElem? found)
    simp only [advance, hosts, found] at alike ⊢
    cases phase with
    | queued =>
      cases phase' with
      | queued => exact masked_attempt look same found kept 0 alike
      | _ => simp [Phase.masked] at phases
    | done verdict =>
      cases phase' with
      | done verdict' => exact ⟨phases, look⟩
      | _ => simp [Phase.masked] at phases
    | compiling retried c =>
      cases phase' with
      | compiling retried' c' =>
        obtain ⟨rfl, compilations⟩ := Phase.compiling.inj phases
        have units : c.unit.masked = c'.unit.masked := congrArg Compilation.unit compilations
        have machines : w.machine.masked v = w'.machine.masked v := congrArg Workshop.machine look
        have finished := host.bench.masked_finish? machines compilations
        simp only [advanceOn] at alike ⊢
        generalize host.bench.finish? w.machine c = ended at finished alike ⊢
        generalize host.bench.finish? w'.machine c' = ended' at finished alike ⊢
        rcases ended with - | ⟨built, machine⟩ <;> rcases ended' with - | ⟨built', machine'⟩
        · exact ⟨phases, look⟩
        · simp at finished
        · simp at finished
        · obtain ⟨builts, machines⟩ := Prod.mk.inj (Option.some.inj finished)
          have quiet := quiet_settle { w with machine } host c.unit built
          have taken : ({ w with machine } : Workshop).masked v =
              ({ w' with machine := machine' } : Workshop).masked v := by
            show ({ w.masked v with machine := machine.masked v } : Workshop) =
              { w'.masked v with machine := machine'.masked v }
            rw [look, machines]
          have settled := masked_settle (v := v) (w := { w with machine }) host c.unit built
          rw [taken, units, builts, masked_settle] at settled
          obtain ⟨results, looks⟩ := Prod.mk.inj settled
          exact masked_conclude looks.symm same (by rw [quiet.hosts]; exact found) kept retried
            results.symm alike
      | _ => simp [Phase.masked] at phases

end Workshop

end Plotter
