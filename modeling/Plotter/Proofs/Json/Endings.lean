import Plotter.Proofs.Json.Reading

/-!
# Where an array or an object ends

A number may go on as long as there are digits. An array or an object is over with its last
bracket: no text that goes on is read, unless it goes on with blanks alone, and no text that breaks
off before is read.

What is under way inside an array or an object has a frame that waits for it, whatever its
beginning (`State.Enclosed`). So once no frame waits, nothing is under way.

## What is proved

* `blanks_of_read?_append`: if a text that begins with a bracket is read, and is still read with
  another text after it, then the other text is of blanks.
-/

namespace Plotter.Json

namespace State

variable {stack : List Frame}

/-- A value under way has a frame that waits for it. -/
def Enclosed (s : State) : Prop :=
  match s.mode with
  | .between .value | .word _ _ | .string .value _ _ | .number _ _ => s.stack ≠ []
  | _ => True

theorem enclosed_deliver (v : Value) (stack : List Frame) : (deliver v stack).Enclosed := by
  cases stack with
  | nil => trivial
  | cons frame stack => cases frame <;> trivial

theorem stack_of_open? {c : Char} {s : State} (h : open? stack c = some s) : s.stack = stack := by
  unfold open? at h
  split_ifs at h <;> (obtain rfl := Option.some.inj h; rfl)

theorem enclosed_of_stack {s : State} (nested : s.stack ≠ []) : s.Enclosed := by
  unfold Enclosed
  split
  · exact nested
  · exact nested
  · exact nested
  · exact nested
  · trivial

theorem Enclosed.token? {expect : Expect} {c : Char} {s : State}
    (h : Enclosed ⟨stack, .between expect⟩) (next : token? stack expect c = some s) :
    s.Enclosed := by
  cases expect with
  | value => exact enclosed_of_stack (stack_of_open? next ▸ h)
  | firstItem =>
    simp only [State.token?] at next
    split_ifs at next
    · obtain rfl := Option.some.inj next
      exact enclosed_deliver _ _
    · exact enclosed_of_stack (stack_of_open? next ▸ List.cons_ne_nil _ _)
  | nothing v => simp [State.token?] at next
  | moreItems done =>
    simp only [State.token?] at next
    split_ifs at next
    · obtain rfl := Option.some.inj next
      exact List.cons_ne_nil _ _
    · obtain rfl := Option.some.inj next
      exact enclosed_deliver _ _
  | moreFields done =>
    simp only [State.token?] at next
    split_ifs at next
    · obtain rfl := Option.some.inj next
      trivial
    · obtain rfl := Option.some.inj next
      exact enclosed_deliver _ _
  | firstKey =>
    simp only [State.token?] at next
    split_ifs at next
    · obtain rfl := Option.some.inj next
      exact enclosed_deliver _ _
    · obtain rfl := Option.some.inj next
      trivial
  | key done =>
    simp only [State.token?] at next
    split_ifs at next
    obtain rfl := Option.some.inj next
    trivial
  | colon done key =>
    simp only [State.token?] at next
    split_ifs at next
    obtain rfl := Option.some.inj next
    exact List.cons_ne_nil _ _

theorem Enclosed.between? {expect : Expect} {c : Char} {s : State}
    (h : Enclosed ⟨stack, .between expect⟩) (next : between? stack expect c = some s) :
    s.Enclosed := by
  unfold State.between? at next
  split_ifs at next
  · obtain rfl := Option.some.inj next
    exact h
  · exact h.token? next

theorem enclosed_closeString (stack : List Frame) (literal : Literal) (purpose : Purpose) :
    (closeString stack literal purpose).Enclosed := by
  cases purpose with
  | value => exact enclosed_deliver _ _
  | key done => trivial

/-- How far a string has got is no matter. -/
theorem Enclosed.string {purpose : Purpose} {literal : Literal} {escape : Escape}
    (h : Enclosed ⟨stack, .string purpose literal escape⟩) (literal' : Literal) (escape' : Escape) :
    Enclosed ⟨stack, .string purpose literal' escape'⟩ := by
  cases purpose with
  | value => exact h
  | key done => trivial

theorem Enclosed.inString? {purpose : Purpose} {literal : Literal} {escape : Escape} {c : Char}
    {s : State} (h : Enclosed ⟨stack, .string purpose literal escape⟩)
    (next : inString? stack purpose literal escape c = some s) : s.Enclosed := by
  cases escape with
  | none =>
    simp only [State.inString?] at next
    split_ifs at next
    · obtain rfl := Option.some.inj next
      exact enclosed_closeString _ _ _
    · obtain rfl := Option.some.inj next
      exact h.string _ _
    · obtain rfl := Option.some.inj next
      exact h.string _ _
  | letter =>
    simp only [State.inString?] at next
    split_ifs at next
    · obtain rfl := Option.some.inj next
      exact h.string _ _
    · obtain ⟨e, -, rfl⟩ := Option.map_eq_some_iff.1 next
      exact h.string _ _
  | digits unit owed =>
    obtain ⟨d, -, rfl⟩ := Option.map_eq_some_iff.1 next
    cases owed <;> exact h.string _ _

/-- **A character keeps what is under way enclosed.** -/
theorem Enclosed.step {s s' : State} {c : Char} (h : s.Enclosed) (next : s.step? c = some s') :
    s'.Enclosed := by
  obtain ⟨stack, mode⟩ := s
  cases mode with
  | between expect => exact h.between? next
  | string purpose literal escape => exact h.inString? next
  | word rest value =>
    simp only [step?] at next
    split at next
    · simp at next
    · split_ifs at next
      obtain rfl := Option.some.inj next
      exact enclosed_deliver _ _
    · split_ifs at next
      obtain rfl := Option.some.inj next
      exact h
  | number part literal =>
    simp only [step?, inNumber?] at next
    split at next
    · obtain rfl := Option.some.inj next
      exact h
    · split_ifs at next
      have delivered := enclosed_deliver (.number literal.reverse) stack
      generalize deliver (.number literal.reverse) stack = s at next delivered
      obtain ⟨stack', mode⟩ := s
      cases mode with
      | between expect => exact delivered.between? next
      | _ => simp at next

/-- A text keeps what is under way enclosed. -/
theorem Enclosed.run {s s' : State} {text : List Char} (h : s.Enclosed)
    (read : s.run? text = some s') : s'.Enclosed := by
  induction text generalizing s with
  | nil =>
    obtain rfl := Option.some.inj read
    exact h
  | cons c text ih =>
    rw [run?_cons] at read
    obtain ⟨next, stepped, rest⟩ := Option.bind_eq_some_iff.1 read
    exact ih (h.step stepped) rest

/-- Where what is under way is enclosed, a value is complete only if nothing is under way. -/
theorem Enclosed.of_value? {s : State} {v : Value} (h : s.Enclosed) (complete : s.value? = some v) :
    s = ⟨[], .between (.nothing v)⟩ := by
  obtain ⟨stack, mode⟩ := s
  unfold State.value? at complete
  split at complete
  · rename_i empty same
    obtain rfl : stack = [] := empty
    obtain rfl := Option.some.inj complete
    exact congrArg _ same
  · rename_i empty same
    obtain rfl : mode = _ := same
    exact absurd empty h
  · simp at complete

/-- After a complete value there may be blanks, and nothing else. -/
theorem blanks_of_run? {v : Value} {text : List Char} {s : State}
    (read : run? ⟨[], .between (.nothing v)⟩ text = some s) : Blanks text := by
  induction text with
  | nil => exact .nil
  | cons c text ih =>
    rw [run?_cons] at read
    by_cases space : isSpace c = true
    · rw [step?_of_space space, Option.bind_some] at read
      exact List.forall_mem_cons.2 ⟨space, ih read⟩
    · rw [step?_of_not_space (Bool.not_eq_true _ ▸ space)] at read
      simp [token?] at read

end State

/-- What begins with a bracket is enclosed from there on. -/
theorem State.enclosed_of_bracket {c : Char} {text : List Char} {s : State}
    (bracket : c = '[' ∨ c = '\x7b') (read : State.run? {} (c :: text) = some s) : s.Enclosed := by
  rw [State.run?_cons] at read
  obtain ⟨next, stepped, rest⟩ := Option.bind_eq_some_iff.1 read
  have enclosed : next.Enclosed := by
    rcases bracket with rfl | rfl <;> (obtain rfl := Option.some.inj stepped; trivial)
  exact enclosed.run rest

/-- **An array or an object is over with its last bracket.** If a text that begins with a bracket is
read, and is still read with more after it, then what is after it is of blanks. -/
theorem blanks_of_read?_append {c : Char} {text more : List Char} {v w : Value}
    (bracket : c = '[' ∨ c = '\x7b') (read : read? (c :: text) = some v)
    (longer : read? (c :: text ++ more) = some w) : Blanks more := by
  obtain ⟨s, reached, complete⟩ := Option.bind_eq_some_iff.1 read
  obtain ⟨s', reached', -⟩ := Option.bind_eq_some_iff.1 longer
  obtain rfl := (State.enclosed_of_bracket bracket reached).of_value? complete
  rw [State.run?_append, reached, Option.bind_some] at reached'
  exact State.blanks_of_run? reached'

end Plotter.Json
