import Plotter.Proofs.Json.Numbers
import Plotter.Proofs.Json.Strings

/-!
# Every wording is read

However a value is worded, the reader reads that value. The reader takes a text one character at a
time and cannot look ahead, so it knows that a number is over only from the character after it: a
value that was read is delivered, or it is a number that waits to be (`Held`). What may stand after
a value is such that the difference does not show.

## What is proved

* `State.run?_of_wording`: the reader at work on a wording, whatever stands around it.
* `read?_of_wording`: a value with blanks around it, in whatever wording, is read.
-/

namespace Plotter.Json

namespace State

variable {stack : List Frame} {expect : Expect}

/-- Blanks between tokens are passed over. -/
theorem run?_blanks {blanks : List Char} (h : Blanks blanks) (rest : List Char) :
    run? ⟨stack, .between expect⟩ (blanks ++ rest) = run? ⟨stack, .between expect⟩ rest := by
  induction blanks with
  | nil => rfl
  | cons c blanks ih =>
    rw [List.cons_append, run?_cons, step?_of_space (h c (by simp))]
    exact ih fun c member => h c (by simp [member])

/-- A string literal is read from the character after its first quote. -/
theorem run?_literal {text : Option String} {spelling : List Char} (h : Quotes text spelling) :
    ∃ literal, literal.text? = text ∧ ∀ stack purpose rest,
      run? ⟨stack, .string purpose {} .none⟩ (spelling ++ '"' :: rest) =
        (closeString stack literal purpose).run? rest := by
  obtain ⟨literal, spelt, same⟩ := h.spelt
  refine ⟨literal, same, fun stack purpose rest => ?_⟩
  rw [run?_append, spelt.read, Option.bind_some, run?_cons]
  rfl

/-! ### Values that were read -/

/-- A value was read: it is delivered, or it is a number that may be over. -/
def Held (v : Value) (stack : List Frame) (s : State) : Prop :=
  s = deliver v stack ∨
    ∃ part literal, part.complete = true ∧ v = .number literal.reverse ∧
      s = ⟨stack, .number part literal⟩

theorem run?_number {sign whole fraction exponent : List Char}
    (h : IsNumber sign whole fraction exponent) :
    ∃ s, run? ⟨stack, .between .value⟩ (sign ++ (whole ++ (fraction ++ exponent))) = some s ∧
      Held (.number (sign ++ (whole ++ (fraction ++ exponent)))) stack s := by
  obtain ⟨part, begun, first⟩ := run?_whole stack h.sign h.whole
  obtain ⟨part', complete, read⟩ := NumberPart.after?_tail begun h.fraction h.exponent
  refine ⟨⟨stack, .number part' (sign ++ (whole ++ (fraction ++ exponent))).reverse⟩, ?_,
    .inr ⟨part', _, complete, by rw [List.reverse_reverse], rfl⟩⟩
  rw [← List.append_assoc, run?_append, first, Option.bind_some, run?_after read]
  simp

/-- The characters that may stand after a value. -/
def Stops (c : Char) : Prop := isSpace c = true ∨ c = ',' ∨ c = ']' ∨ c = '\x7d'

/-- Where a number may be over, what may stand after it ends it. -/
theorem Held.step? {v : Value} {s : State} {c : Char} (h : Held v stack s) (stops : Stops c) :
    s.step? c = (deliver v stack).step? c := by
  rcases h with rfl | ⟨part, literal, complete, rfl, rfl⟩
  · rfl
  · have ends : part.next? c = none := by
      have blanks : c = ' ' ∨ c = '\t' ∨ c = '\n' ∨ c = '\r' ∨ c = ',' ∨ c = ']' ∨ c = '\x7d' := by
        simpa [Stops, isSpace, or_assoc] using stops
      rcases blanks with rfl | rfl | rfl | rfl | rfl | rfl | rfl <;> cases part <;> rfl
    cases stack with
    | nil => simp [State.step?, inNumber?, ends, complete, deliver]
    | cons frame stack =>
      cases frame <;> simp [State.step?, inNumber?, ends, complete, deliver]

theorem Held.run? {v : Value} {s : State} {c : Char} (h : Held v stack s) (stops : Stops c)
    (rest : List Char) : s.run? (c :: rest) = (deliver v stack).run? (c :: rest) := by
  rw [run?_cons, run?_cons, h.step? stops]

theorem deliver_blanks (v : Value) (stack : List Frame) {blanks : List Char}
    (h : Blanks blanks) (rest : List Char) :
    (deliver v stack).run? (blanks ++ rest) = (deliver v stack).run? rest := by
  cases stack with
  | nil => exact run?_blanks h rest
  | cons frame stack => cases frame <;> exact run?_blanks h rest

/-- Blanks after a value change nothing. -/
theorem Held.blanks {v : Value} {s : State} {blanks : List Char} (h : Held v stack s)
    (all : Blanks blanks) : ∃ s', s.run? blanks = some s' ∧ Held v stack s' := by
  cases blanks with
  | nil => exact ⟨s, rfl, h⟩
  | cons c rest =>
    refine ⟨deliver v stack, ?_, .inl rfl⟩
    have passed := deliver_blanks v stack all []
    rw [List.append_nil] at passed
    rw [h.run? (.inl (all c (by simp))), passed]
    rfl

/-! ### Wordings -/

/-- A text begins, after blanks, with a character that is no end of an array or an object. -/
def Begins (text : List Char) : Prop :=
  ∃ blanks c rest, text = blanks ++ c :: rest ∧ Blanks blanks ∧ isSpace c = false ∧
    c ≠ ']' ∧ c ≠ '\x7d'

theorem Begins.append {text : List Char} (h : Begins text) (more : List Char) :
    Begins (text ++ more) := by
  obtain ⟨blanks, c, rest, rfl, all, token, item, field⟩ := h
  exact ⟨blanks, c, rest ++ more, by simp, all, token, item, field⟩

theorem begins_of_token {c : Char} (token : isSpace c = false) (item : c ≠ ']')
    (field : c ≠ '\x7d') (rest : List Char) : Begins (c :: rest) :=
  ⟨[], c, rest, rfl, .nil, token, item, field⟩

theorem begins_of_digit {c : Char} (h : c.isDigit = true) (rest : List Char) :
    Begins (c :: rest) :=
  begins_of_token (by simp [isSpace, ne_of_isDigit h]) (ne_of_isDigit h rfl) (ne_of_isDigit h rfl)
    rest

theorem begins_of_isNumber {sign whole fraction exponent : List Char}
    (h : IsNumber sign whole fraction exponent) :
    Begins (sign ++ (whole ++ (fraction ++ exponent))) := by
  rcases h.sign with rfl | rfl
  · obtain ⟨c, rest, rfl, digit⟩ : ∃ c rest, whole = c :: rest ∧ c.isDigit = true := by
      rcases h.whole with rfl | ⟨⟨nonempty, digits⟩, -⟩
      · exact ⟨'0', [], rfl, rfl⟩
      · cases whole with
        | nil => exact absurd rfl nonempty
        | cons c rest => exact ⟨c, rest, rfl, digits c (by simp)⟩
    exact begins_of_digit digit _
  · exact begins_of_token (by decide) (by decide) (by decide) _

theorem begins_of_wording {piece : Piece} {text : List Char} (h : Wording piece text) :
    Begins text := by
  induction h with
  | number h => exact begins_of_isNumber h
  | @padded v before text after left right h ih =>
    obtain ⟨blanks, c, rest, rfl, all, token, item, field⟩ := ih
    exact ⟨before ++ blanks, c, rest ++ after, by simp, left.append all, token, item, field⟩
  | item h ih => exact ih
  | items h rest ih _ => exact ih.append _
  | field left quoted right h ih =>
    exact ⟨_, '"', _, rfl, left, by decide, by decide, by decide⟩
  | fields h rest ih _ => exact ih.append _
  | _ => exact begins_of_token (by decide) (by decide) (by decide) _

/-- The first item of an array is read like any value. -/
theorem run?_firstItem {text : List Char} (h : Begins text) :
    run? ⟨stack, .between .firstItem⟩ text = run? ⟨.item [] :: stack, .between .value⟩ text := by
  obtain ⟨blanks, c, rest, rfl, all, token, item, -⟩ := h
  rw [run?_blanks all, run?_blanks all, run?_cons, run?_cons, step?_of_not_space token,
    step?_of_not_space token]
  simp [token?, item]

/-- The first field of an object is read like any other. -/
theorem run?_firstKey {text : List Char} (h : Begins text) :
    run? ⟨stack, .between .firstKey⟩ text = run? ⟨stack, .between (.key [])⟩ text := by
  obtain ⟨blanks, c, rest, rfl, all, token, -, field⟩ := h
  rw [run?_blanks all, run?_blanks all, run?_cons, run?_cons, step?_of_not_space token,
    step?_of_not_space token]
  simp [token?, field]

theorem run?_bracket (rest : List Char) :
    run? ⟨stack, .between .value⟩ ('[' :: rest) = run? ⟨stack, .between .firstItem⟩ rest := rfl

theorem run?_brace (rest : List Char) :
    run? ⟨stack, .between .value⟩ ('\x7b' :: rest) = run? ⟨stack, .between .firstKey⟩ rest := rfl

/-- What the reader makes of a wording. Of items and of fields the last one is held. -/
def Reads : Piece → List Char → Prop
  | .value v, text | .padded v, text =>
    ∀ stack, ∃ s, run? ⟨stack, .between .value⟩ text = some s ∧ Held v stack s
  | .items vs, text => ∀ done stack, ∃ s v earlier,
    run? ⟨.item done :: stack, .between .value⟩ text = some s ∧
      Held v (.item earlier :: stack) s ∧ v :: earlier = vs.reverse ++ done
  | .fields fs, text => ∀ done stack, ∃ s key v earlier,
    run? ⟨stack, .between (.key done)⟩ text = some s ∧
      Held v (.field earlier key :: stack) s ∧ (key, v) :: earlier = fs.reverse ++ done

/-- **The reader reads every wording**, whatever waits for it. -/
theorem run?_of_wording {piece : Piece} {text : List Char} (h : Wording piece text) :
    Reads piece text := by
  induction h with
  | null | true | false => exact fun stack => ⟨_, rfl, .inl rfl⟩
  | number h => exact fun stack => run?_number h
  | string h =>
    obtain ⟨literal, rfl, read⟩ := run?_literal h
    refine fun stack => ⟨_, ?_, .inl rfl⟩
    have begun (rest : List Char) : run? ⟨stack, .between .value⟩ ('"' :: rest) =
        run? ⟨stack, .string .value {} .none⟩ rest := rfl
    rw [begun, read]
    rfl
  | noItems h =>
    refine fun stack => ⟨_, ?_, .inl rfl⟩
    rw [run?_bracket, run?_blanks h]
    rfl
  | @array vs text h ih =>
    refine fun stack => ⟨_, ?_, .inl rfl⟩
    obtain ⟨s, v, earlier, read, held, all⟩ := ih [] stack
    have ends : (deliver v (.item earlier :: stack)).run? [']'] =
        some (deliver (.array (v :: earlier).reverse) stack) := rfl
    rw [run?_bracket, run?_firstItem ((begins_of_wording h).append _), run?_append, read,
      Option.bind_some, held.run? (by simp [Stops]), ends, all, List.append_nil, List.reverse_reverse]
  | noFields h =>
    refine fun stack => ⟨_, ?_, .inl rfl⟩
    rw [run?_brace, run?_blanks h]
    rfl
  | @object fs text h ih =>
    refine fun stack => ⟨_, ?_, .inl rfl⟩
    obtain ⟨s, key, v, earlier, read, held, all⟩ := ih [] stack
    have ends : (deliver v (.field earlier key :: stack)).run? ['\x7d'] =
        some (deliver (.object ((key, v) :: earlier).reverse) stack) := rfl
    rw [run?_brace, run?_firstKey ((begins_of_wording h).append _), run?_append, read,
      Option.bind_some, held.run? (by simp [Stops]), ends, all, List.append_nil, List.reverse_reverse]
  | padded left right h ih =>
    intro stack
    obtain ⟨s, read, held⟩ := ih stack
    obtain ⟨s', passed, held'⟩ := held.blanks right
    exact ⟨s', by rw [run?_blanks left, run?_append, read, Option.bind_some, passed], held'⟩
  | item h ih =>
    intro done stack
    obtain ⟨s, read, held⟩ := ih (.item done :: stack)
    exact ⟨s, _, done, read, held, rfl⟩
  | @items v vs text texts h rest ih ih' =>
    intro done stack
    obtain ⟨s, read, held⟩ := ih (.item done :: stack)
    obtain ⟨s', last, earlier, read', held', all⟩ := ih' (v :: done) stack
    have next (rest : List Char) : run? (deliver v (.item done :: stack)) (',' :: rest) =
        run? ⟨.item (v :: done) :: stack, .between .value⟩ rest := rfl
    refine ⟨s', last, earlier, ?_, held', by simpa using all⟩
    rw [run?_append, read, Option.bind_some, held.run? (by simp [Stops]), next, read']
  | @field key v before spelling after text left quoted right h ih =>
    intro done stack
    have begun (rest : List Char) : run? ⟨stack, .between (.key done)⟩ ('"' :: rest) =
        run? ⟨stack, .string (.key done) {} .none⟩ rest := rfl
    have colon (rest : List Char) : run? ⟨stack, .between (.colon done key)⟩ (':' :: rest) =
        run? ⟨.field done key :: stack, .between .value⟩ rest := rfl
    obtain ⟨literal, rfl, spelt⟩ := run?_literal quoted
    obtain ⟨s, read, held⟩ := ih (.field done literal.text? :: stack)
    refine ⟨s, _, v, done, ?_, held, rfl⟩
    rw [run?_blanks left, begun, spelt, closeString, run?_blanks right, colon, read]
  | @fields f fs text texts h rest ih ih' =>
    intro done stack
    obtain ⟨s, key, v, earlier, read, held, all⟩ := ih done stack
    obtain ⟨rfl, rfl⟩ : (key, v) = f ∧ earlier = done := by simpa using all
    obtain ⟨s', key', v', earlier', read', held', all'⟩ := ih' ((key, v) :: earlier) stack
    have next (rest : List Char) : run? (deliver v (.field earlier key :: stack)) (',' :: rest) =
        run? ⟨stack, .between (.key ((key, v) :: earlier))⟩ rest := rfl
    refine ⟨s', key', v', earlier', ?_, held', by simpa using all'⟩
    rw [run?_append, read, Option.bind_some, held.run? (by simp [Stops]), next, read']

/-- A value that was read is the reader's answer. -/
theorem Held.value? {v : Value} {s : State} (h : Held v [] s) : s.value? = some v := by
  rcases h with rfl | ⟨part, literal, complete, rfl, rfl⟩
  · rfl
  · simp [State.value?, complete]

end State

/-- **A value with blanks around it is read**, in whatever wording. -/
theorem read?_of_wording {v : Value} {text : List Char} (h : Wording (.padded v) text) :
    read? text = some v := by
  obtain ⟨s, read, held⟩ := State.run?_of_wording h []
  have begun : State.run? {} text = some s := read
  rw [read?, begun, Option.bind_some, held.value?]

end Plotter.Json
