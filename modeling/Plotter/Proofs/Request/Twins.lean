import Plotter.Proofs.Host.MaskedExpressions
import Plotter.Proofs.Request.Redrawn

/-!
# Two hosts at the same request

Two hosts that were set up alike (`Host.Twin`), each on a machine and with a source of names of its
own, are given one expression. The compiler can be started in both scratch directories or in neither;
the machines may differ in the places of these, in the time and in what was noted. As long as the
compiler answers each call of the one as it answers the call of the other that has as many before it,
the requests are alike (`Workshop.Twins`).

## What is proved

* `Workshop.Twins.advance`: steps of two requests that are alike are alike, if the compiler answers
  them alike.
-/

namespace Plotter

variable {P : UInt64 → UInt64 → Prop}

/-- How far two requests have come that are the same but for the digits of chance and times. -/
inductive Phase.Redrawn (P : UInt64 → UInt64 → Prop) : (phase phase' : Phase) → Prop
  | queued : Redrawn P .queued .queued
  | compiling (retried : UInt32) {c c' : Compilation} (h : c.Redrawn P c') :
      Redrawn P (.compiling retried c) (.compiling retried c')
  | done {verdict verdict' : Verdict} (h : verdict.Redrawn P verdict') :
      Redrawn P (.done verdict) (.done verdict')

theorem Phase.Redrawn.moves {phase phase' : Phase} (h : phase.Redrawn P phase') :
    phase.moves = phase'.moves := by
  cases h with
  | queued => rfl
  | compiling retried h => exact h.isSome_due?
  | done => rfl

/-- Hosts with the same settings, toolchain and template. -/
structure Host.Twin (h h' : Host) : Prop where
  settings : h'.bench.settings = h.bench.settings
  toolchain : h'.bench.toolchain = h.bench.toolchain
  kept : h'.templates.kept = h.templates.kept
  retries : h'.retries = h.retries

/-- Whether the compiler can be started in the scratch directory of a host. -/
def Host.start (h : Host) (m : Machine) : Except SystemFault Unit :=
  m.startIn (m.temporary h.bench.scratch) h.bench.toolchain.path

namespace Machine

/-- The paths of scratch directories are some that the system can have. -/
def Nameable (m : Machine) : Prop := ∀ number, '\x00' ∉ (m.temporary number).toList

end Machine

/-! ### Calls -/

/-- Whether a zero character is among the arguments, where the path and the name are free of them, is
a matter of the settings. -/
theorem Settings.any_zero_arguments (s : Settings) (t : Toolchain) {names : UnitNames} {path : String}
    (crate : '\x00' ∉ names.crate.toList) (clean : '\x00' ∉ path.toList) :
    (s.arguments t names path).any (fun a => a.toList.contains '\x00') =
      (s.arguments t ⟨"", ""⟩ "").any fun a => a.toList.contains '\x00' := by
  have free {text : String} (h : '\x00' ∉ text.toList) : text.toList.contains '\x00' = false := by
    rwa [List.contains_eq_mem, decide_eq_false_iff_not]
  have empty : '\x00' ∉ (UnitNames.crate ⟨"", ""⟩).toList := by decide +kernel
  have nothing : '\x00' ∉ "".toList := by decide +kernel
  simp only [arguments, List.any_append, List.any_cons, free crate, free clean, free empty,
    free nothing]

theorem Bench.zero_not_mem_libraryPath (b : Bench) {m : Machine} (nameable : m.Nameable)
    {names : UnitNames} (crate : '\x00' ∉ names.crate.toList) :
    '\x00' ∉ (b.libraryPath m names).toList := by
  simp only [libraryPath, Machine.scratchPath, Settings.libraryFile, String.toList_append,
    List.mem_append, not_or]
  exact ⟨⟨nameable _, by decide +kernel⟩, ⟨by decide +kernel, crate⟩, by decide +kernel⟩

namespace Workshop

/-- A request whose run comes to its end is concluded with what the host makes of the run. -/
theorem exists_ends {w : Workshop} {r : Request} {host : Host} {retried : UInt32} {c : Compilation}
    (found : w.hosts[r.host]? = some host) (moves : (Phase.compiling retried c).moves = true) :
    ∃ result after, w.Ends host c result after ∧
      w.advance r (.compiling retried c) = after.conclude r host retried result := by
  cases finished : host.bench.finish? w.machine c with
  | none =>
    rw [Bench.finish?_eq_none] at finished
    simp [Phase.moves, finished] at moves
  | some taken =>
    obtain ⟨built, machine⟩ := taken
    refine ⟨_, _, ⟨built, machine, finished, rfl⟩, ?_⟩
    simp only [advance, found, advanceOn, finished]
    rfl

/-- Two hosts that are at one request, alike but for the digits of chance. -/
structure Twins (P : UInt64 → UInt64 → Prop) (r : Request) (host host' : Host) (w w' : Workshop) :
    Prop where
  found : w.hosts[r.host]? = some host
  found' : w'.hosts[r.host]? = some host'
  twin : host.Twin host'
  names : w.names.Redrawn P w'.names
  counted : w.machine.attempts.length = w'.machine.attempts.length
  started : host.start w.machine = host'.start w'.machine
  nameable : w.machine.Nameable
  nameable' : w'.machine.Nameable

namespace Twins

variable {r : Request} {host host' : Host} {w w' v v' : Workshop} {template : Template}

/-- Nothing is asked of either compiler. -/
theorem quiet (h : Twins P r host host' w w') (quiet : w.Quiet v) (sited : w.machine.Sited v.machine)
    (quiet' : w'.Quiet v') (sited' : w'.machine.Sited v'.machine) : Twins P r host host' v v' where
  found := quiet.hosts ▸ h.found
  found' := quiet'.hosts ▸ h.found'
  twin := h.twin
  names := by
    rw [quiet.names, quiet'.names]
    exact h.names
  counted := by
    rw [quiet.machine.attempts, quiet'.machine.attempts]
    exact h.counted
  started := by
    simp only [Host.start, quiet.machine.temporary, quiet'.machine.temporary, sited.startIn_eq,
      sited'.startIn_eq]
    exact h.started
  nameable := fun number => quiet.machine.temporary ▸ h.nameable number
  nameable' := fun number => quiet'.machine.temporary ▸ h.nameable' number

/-- Calls that have as many before them are answered alike. -/
theorem respond (h : Twins P r host host' w w') {unit unit' : SourceUnit}
    (crate : '\x00' ∉ unit.names.crate.toList) (crate' : '\x00' ∉ unit'.names.crate.toList)
    (alike : Machine.Answered (Response.Redrawn P) (host.bench.call w.machine unit).2
      (host'.bench.call w'.machine unit').2) :
    (host.bench.call w.machine unit).1.response.Redrawn P
      (host'.bench.call w'.machine unit').1.response := by
  let call := host.bench.callFor w.machine unit
  let call' := host'.bench.callFor w'.machine unit'
  let program := host.bench.toolchain.path
  have programs : host'.bench.toolchain.path = program := by rw [h.twin.toolchain]
  have zeros : (call'.arguments.any fun a => a.toList.contains '\x00') =
      call.arguments.any fun a => a.toList.contains '\x00' := by
    simp only [call, call', Bench.callFor]
    rw [Settings.any_zero_arguments _ _ crate (host.bench.zero_not_mem_libraryPath h.nameable crate),
      Settings.any_zero_arguments _ _ crate'
        (host'.bench.zero_not_mem_libraryPath h.nameable' crate'), h.twin.settings, h.twin.toolchain]
  have started : w.machine.startIn call.directory program =
      w'.machine.startIn call'.directory program := by
    have same := h.started
    rw [Host.start, Host.start, programs] at same
    exact same
  simp only [Bench.call_eq] at alike ⊢
  rw [programs] at alike ⊢
  exact alike.respond .refl started h.counted zeros.symm

/-- Two attempts begin alike. -/
theorem commence (h : Twins P r host host' w w') (template : Template) (retried : UInt32)
    (alike : Machine.Answered (Response.Redrawn P)
      (w.commence r host template retried).begun.machine
      (w'.commence r host' template retried).begun.machine) :
    (w.commence r host template retried).compilation.Redrawn P
        (w'.commence r host' template retried).compilation ∧
      Twins P r host host' (w.commence r host template retried).begun
        (w'.commence r host' template retried).begun := by
  obtain ⟨names, next⟩ := h.names.next
  have units := SourceUnit.redrawn_fill template names r.expression
  refine ⟨⟨units, ?_⟩, h.found, h.found', h.twin, next, ?_, h.started, h.nameable, h.nameable'⟩
  · exact h.respond (w.names.zero_not_mem_crate _) (w'.names.zero_not_mem_crate _) alike
  · simp only [Workshop.commence, Bench.call_eq, List.length_cons, h.counted]

theorem fail (h : Twins P r host host' w w') {failure failure' : Failure}
    (failures : failure.Redrawn P failure') :
    (w.fail r failure).1.Redrawn P (w'.fail r failure').1 ∧
      Twins P r host host' (w.fail r failure).2 (w'.fail r failure').2 :=
  ⟨.done (.failed failures), h.quiet (w.quiet_fail r failure) (w.sited_fail r failure)
    (w'.quiet_fail r failure') (w'.sited_fail r failure')⟩

/-- An attempt goes on steadily from the call that it begins with. -/
theorem steady_attempt_of_begun (found : w.hosts[r.host]? = some host)
    (kept : host.templates.kept = some template) (retried : UInt32) :
    (w.commence r host template retried).begun.machine.Steady
      (w.attempt r host retried).2.machine := by
  rw [attempt_eq found kept]
  split
  · exact (quiet_fail ..).steady.machine
  · exact .refl _

/-- Two attempts that are answered alike come to the same. -/
theorem attempt (h : Twins P r host host' w w') (kept : host.templates.kept = some template)
    (retried : UInt32) (alike : Machine.Answered (Response.Redrawn P)
      (w.attempt r host retried).2.machine (w'.attempt r host' retried).2.machine) :
    (w.attempt r host retried).1.Redrawn P (w'.attempt r host' retried).1 ∧
      Twins P r host host' (w.attempt r host retried).2 (w'.attempt r host' retried).2 := by
  have kept' : host'.templates.kept = some template := h.twin.kept.trans kept
  have programs : host'.bench.toolchain.path = host.bench.toolchain.path := by
    rw [h.twin.toolchain]
  have onward := steady_attempt_of_begun h.found kept retried
  have onward' := steady_attempt_of_begun h.found' kept' retried
  obtain ⟨compilations, begun⟩ := h.commence template retried (alike.of_steady onward onward')
  rw [attempt_eq h.found kept, attempt_eq h.found' kept', programs]
  generalize w.commence r host template retried = start at compilations begun ⊢
  generalize w'.commence r host' template retried = start' at compilations begun ⊢
  have responses := compilations.response
  generalize start.compilation.response = response at responses ⊢
  generalize start'.compilation.response = response' at responses ⊢
  cases responses with
  | unstarted fault => exact begun.fail (.same _)
  | _ => exact ⟨.compiling retried compilations, begun⟩

/-- What two runs are made of comes to the same. -/
theorem conclude (h : Twins P r host host' w w') (kept : host.templates.kept = some template)
    (retried : UInt32) {result result' : Except Failure Verdict}
    (results : RedrawnResult P result result') (alike : Machine.Answered (Response.Redrawn P)
      (w.conclude r host retried result).2.machine (w'.conclude r host' retried result').2.machine) :
    (w.conclude r host retried result).1.Redrawn P (w'.conclude r host' retried result').1 ∧
      Twins P r host host' (w.conclude r host retried result).2
        (w'.conclude r host' retried result').2 := by
  cases results with
  | ok verdicts => exact ⟨.done verdicts, h⟩
  | @error failure failure' failures =>
    simp only [Workshop.conclude, failures.isLoading, h.twin.retries] at alike ⊢
    have noted : Twins P r host host' (w.note (.retrying failure)) (w'.note (.retrying failure')) :=
      h.quiet (w.quiet_note _) ⟨rfl, rfl⟩ (w'.quiet_note _) ⟨rfl, rfl⟩
    split at alike
    · rename_i again
      rw [if_pos again, if_pos again]
      exact noted.attempt kept (retried + 1) alike
    · rename_i last
      rw [if_neg last, if_neg last]
      exact h.fail failures

/-- **Steps of two requests that are alike are alike**, if the compiler answers them alike. -/
theorem advance (h : Twins P r host host' w w') {phase phase' : Phase}
    (phases : phase.Redrawn P phase') (undisturbed : w.Undisturbed r phase)
    (undisturbed' : w'.Undisturbed r phase') (alike : Machine.Answered (Response.Redrawn P)
      (w.advance r phase).2.machine (w'.advance r phase').2.machine) :
    (w.advance r phase).1.Redrawn P (w'.advance r phase').1 ∧
      Twins P r host host' (w.advance r phase).2 (w'.advance r phase').2 := by
  obtain ⟨template, kept⟩ := undisturbed.ready host (List.mem_of_getElem? h.found)
  cases moves : phase.moves with
  | false =>
    rw [w.advance_of_stuck r moves, w'.advance_of_stuck r (phases.moves ▸ moves)]
    exact ⟨phases, h⟩
  | true =>
    have moves' : phase'.moves = true := phases.moves ▸ moves
    cases phases with
    | queued =>
      simp only [Workshop.advance, h.found, h.found', advanceOn] at alike ⊢
      exact h.attempt kept 0 alike
    | done verdicts => cases moves
    | @compiling retried c c' compilations =>
      obtain ⟨result, after, ended, same⟩ := exists_ends h.found moves
      obtain ⟨result', after', ended', same'⟩ := exists_ends h.found' moves'
      rw [same, same'] at alike ⊢
      have outcome := ended.outcome (undisturbed.clear h.found)
        (undisturbed.clean retried c host rfl h.found)
      have outcome' := ended'.outcome (undisturbed'.clear h.found')
        (undisturbed'.clean retried c' host' rfl h.found')
      have results := compilations.outcome? host.bench.toolchain.path w.made w'.made
      rw [outcome, ← h.twin.toolchain, outcome'] at results
      cases results with
      | some results =>
        have settled := h.quiet ended.quiet ended.sited ended'.quiet ended'.sited
        exact settled.conclude kept retried results alike

end Twins

end Workshop

end Plotter
