import Plotter.Proofs.Json.Reading

/-!
# Only wordings are read

What the reader has taken of a text is at every moment the beginning of a wording: its stack says
which arrays and objects were begun and are not over (`Opened`), and its mode what has been read
since (`State.Took`). Each character keeps this so, hence a text does, and where the text may end a
value has been worded.

## What is proved

* `State.Took.step`, `State.Took.run`: a character, and a text, keep it so.
* `read?_eq_some_iff`: the texts that are read as a value are its wordings.
-/

namespace Plotter.Json

/-- What was read before the next item or field: nothing, or the earlier ones and a comma. -/
inductive Led {α : Type} (piece : List α → Piece) : List α → List Char → Prop
  | first : Led piece [] []
  | next {done : List α} {text : List Char} (h : Wording (piece done.reverse) text) :
      Led piece done (text ++ [','])

theorem Led.item {done : List Value} {v : Value} {texts text : List Char}
    (h : Led .items done texts) (h' : Wording (.padded v) text) :
    Wording (.items (v :: done).reverse) (texts ++ text) := by
  cases h with
  | first => exact .item h'
  | next h => simpa using h.concat_item h'

theorem Led.field {done : List (Option String × Value)} {f : Option String × Value}
    {texts text : List Char} (h : Led .fields done texts) (h' : Wording (.fields [f]) text) :
    Wording (.fields (f :: done).reverse) (texts ++ text) := by
  cases h with
  | first => exact h'
  | next h => simpa using h.concat_field h'

/-- The texts after which the frames of a stack wait for a value. -/
inductive Opened : List Frame → List Char → Prop
  | nothing {blanks : List Char} (all : Blanks blanks) : Opened [] blanks
  | item {stack : List Frame} {done : List Value} {front body blanks : List Char}
      (outer : Opened stack front) (led : Led .items done body) (all : Blanks blanks) :
      Opened (.item done :: stack) (front ++ '[' :: (body ++ blanks))
  | field {stack : List Frame} {done : List (Option String × Value)} {key : Option String}
      {front body before spelling after blanks : List Char} (outer : Opened stack front)
      (led : Led .fields done body) (left : Blanks before) (quoted : Quotes key spelling)
      (right : Blanks after) (all : Blanks blanks) :
      Opened (.field done key :: stack)
        (front ++ '\x7b' :: (body ++ (before ++ '"' :: (spelling ++ '"' :: (after ++ ':' :: blanks)))))

theorem Opened.append_blanks {stack : List Frame} {text blanks : List Char} (h : Opened stack text)
    (all : Blanks blanks) : Opened stack (text ++ blanks) := by
  cases h with
  | nothing all' => exact .nothing (all'.append all)
  | item outer led all' => simpa using Opened.item outer led (all'.append all)
  | field outer led left quoted right all' =>
    simpa using Opened.field outer led left quoted right (all'.append all)

/-- The texts after which a string may begin. -/
inductive Awaits (stack : List Frame) : Purpose → List Char → Prop
  | value {text : List Char} (h : Opened stack text) : Awaits stack .value text
  | key {done : List (Option String × Value)} {front body blanks : List Char}
      (outer : Opened stack front) (led : Led .fields done body) (all : Blanks blanks) :
      Awaits stack (.key done) (front ++ '\x7b' :: (body ++ blanks))

namespace State

/-- What the reader has taken of a text. -/
inductive Took : List Char → State → Prop
  | value {stack : List Frame} {text : List Char} (h : Opened stack text) :
      Took text ⟨stack, .between .value⟩
  | firstItem {stack : List Frame} {front blanks : List Char} (outer : Opened stack front)
      (all : Blanks blanks) : Took (front ++ '[' :: blanks) ⟨stack, .between .firstItem⟩
  | moreItems {stack : List Frame} {done : List Value} {front body : List Char}
      (outer : Opened stack front) (h : Wording (.items done.reverse) body) :
      Took (front ++ '[' :: body) ⟨stack, .between (.moreItems done)⟩
  | firstKey {stack : List Frame} {front blanks : List Char} (outer : Opened stack front)
      (all : Blanks blanks) : Took (front ++ '\x7b' :: blanks) ⟨stack, .between .firstKey⟩
  | key {stack : List Frame} {done : List (Option String × Value)} {text : List Char}
      (h : Awaits stack (.key done) text) : Took text ⟨stack, .between (.key done)⟩
  | colon {stack : List Frame} {done : List (Option String × Value)} {key : Option String}
      {front spelling blanks : List Char} (h : Awaits stack (.key done) front)
      (quoted : Quotes key spelling) (all : Blanks blanks) :
      Took (front ++ '"' :: (spelling ++ '"' :: blanks)) ⟨stack, .between (.colon done key)⟩
  | moreFields {stack : List Frame} {done : List (Option String × Value)} {front body : List Char}
      (outer : Opened stack front) (h : Wording (.fields done.reverse) body) :
      Took (front ++ '\x7b' :: body) ⟨stack, .between (.moreFields done)⟩
  | nothing {v : Value} {text : List Char} (h : Wording (.padded v) text) :
      Took text ⟨[], .between (.nothing v)⟩
  | word {stack : List Frame} {front begun rest : List Char} {v : Value} (outer : Opened stack front)
      (h : Wording (.value v) (begun ++ rest)) : Took (front ++ begun) ⟨stack, .word rest v⟩
  | string {stack : List Frame} {purpose : Purpose} {front spelling : List Char} {literal : Literal}
      {escape : Escape} (h : Awaits stack purpose front)
      (quoting : Quoting literal escape spelling) :
      Took (front ++ '"' :: spelling) ⟨stack, .string purpose literal escape⟩
  | number {stack : List Frame} {front literal : List Char} {part : NumberPart}
      (outer : Opened stack front) (h : part.Written literal.reverse) :
      Took (front ++ literal.reverse) ⟨stack, .number part literal⟩

variable {stack : List Frame} {text : List Char}

/-- A value that has been worded is delivered. -/
theorem took_deliver {front : List Char} {v : Value} (outer : Opened stack front)
    (h : Wording (.value v) text) : Took (front ++ text) (deliver v stack) := by
  cases outer with
  | nothing all => simpa [deliver] using Took.nothing (.padded all .nil h)
  | item outer led all => simpa [deliver] using Took.moreItems outer (led.item (.padded all .nil h))
  | field outer led left quoted right all =>
    have whole := Wording.field left quoted right (.padded all .nil h)
    simpa [deliver] using Took.moreFields outer (led.field whole)

/-- Blanks between tokens are taken. -/
theorem Took.append_blanks {expect : Expect} {blanks : List Char}
    (h : Took text ⟨stack, .between expect⟩) (all : Blanks blanks) :
    Took (text ++ blanks) ⟨stack, .between expect⟩ := by
  cases h with
  | value h => exact .value (h.append_blanks all)
  | firstItem outer all' => simpa using Took.firstItem outer (all'.append all)
  | moreItems outer h => simpa using Took.moreItems outer (h.append_blanks (by simp) all)
  | firstKey outer all' => simpa using Took.firstKey outer (all'.append all)
  | key h =>
    cases h with
    | key outer led all' => simpa using Took.key (.key outer led (all'.append all))
  | colon h quoted all' => simpa using Took.colon h quoted (all'.append all)
  | moreFields outer h => simpa using Took.moreFields outer (h.append_blanks (by simp) all)
  | nothing h => exact .nothing (h.append_blanks (by simp) all)

/-- The first character of a value is taken. -/
theorem took_open? {c : Char} {s : State} (h : Opened stack text)
    (next : open? stack c = some s) : Took (text ++ [c]) s := by
  unfold open? at next
  split_ifs at next with quote bracket brace minus zero digit true false null
  · obtain rfl := Option.some.inj next
    subst quote
    exact .string (.value h) quoting_nil
  · obtain rfl := Option.some.inj next
    subst bracket
    exact .firstItem h .nil
  · obtain rfl := Option.some.inj next
    subst brace
    exact .firstKey h .nil
  · obtain rfl := Option.some.inj next
    subst minus
    show Took (text ++ ['-'].reverse) _
    exact .number h .sign
  · obtain rfl := Option.some.inj next
    subst zero
    show Took (text ++ ['0'].reverse) _
    exact .number h (.zero (.inl rfl))
  · obtain rfl := Option.some.inj next
    show Took (text ++ [c].reverse) _
    exact .number h (.whole (.inl rfl) (digits_singleton digit) (by simpa using zero))
  · obtain rfl := Option.some.inj next
    subst true
    exact .word h .true
  · obtain rfl := Option.some.inj next
    subst false
    exact .word h .false
  · obtain rfl := Option.some.inj next
    subst null
    exact .word h .null

/-- A string is begun. -/
theorem took_quote {purpose : Purpose} (h : Awaits stack purpose text) :
    Took (text ++ ['"']) ⟨stack, .string purpose {} .none⟩ := .string h quoting_nil

/-- A character between tokens that is not a blank is taken. -/
theorem Took.token? {expect : Expect} {c : Char} {s : State}
    (h : Took text ⟨stack, .between expect⟩) (next : token? stack expect c = some s) :
    Took (text ++ [c]) s := by
  cases h with
  | value h => exact took_open? h next
  | firstItem outer all =>
    simp only [State.token?] at next
    split_ifs at next with bracket
    · obtain rfl := Option.some.inj next
      subst bracket
      simpa using took_deliver outer (.noItems all)
    · simpa using took_open? (.item outer .first all) next
  | moreItems outer h =>
    simp only [State.token?] at next
    split_ifs at next with comma bracket
    · obtain rfl := Option.some.inj next
      subst comma
      simpa using Took.value (.item outer (.next h) .nil)
    · obtain rfl := Option.some.inj next
      subst bracket
      simpa using took_deliver outer (.array h)
  | firstKey outer all =>
    simp only [State.token?] at next
    split_ifs at next with brace quote
    · obtain rfl := Option.some.inj next
      subst brace
      simpa using took_deliver outer (.noFields all)
    · obtain rfl := Option.some.inj next
      subst quote
      simpa using took_quote (.key outer .first all)
  | key h =>
    simp only [State.token?] at next
    split_ifs at next with quote
    obtain rfl := Option.some.inj next
    subst quote
    exact took_quote h
  | colon h quoted all =>
    simp only [State.token?] at next
    split_ifs at next with colon
    obtain rfl := Option.some.inj next
    subst colon
    cases h with
    | key outer led all' => simpa using Took.value (.field outer led all' quoted all .nil)
  | moreFields outer h =>
    simp only [State.token?] at next
    split_ifs at next with comma brace
    · obtain rfl := Option.some.inj next
      subst comma
      simpa using Took.key (.key outer (.next h) .nil)
    · obtain rfl := Option.some.inj next
      subst brace
      simpa using took_deliver outer (.object h)
  | nothing h => simp [State.token?] at next

theorem Took.between? {expect : Expect} {c : Char} {s : State}
    (h : Took text ⟨stack, .between expect⟩) (next : between? stack expect c = some s) :
    Took (text ++ [c]) s := by
  unfold State.between? at next
  split_ifs at next with space
  · obtain rfl := Option.some.inj next
    exact h.append_blanks (by simpa [Blanks] using space)
  · exact h.token? next

/-- A string that is over is taken. -/
theorem took_closeString {purpose : Purpose} {front spelling : List Char} {literal : Literal}
    (h : Awaits stack purpose front) (spelt : literal.Spelt spelling) :
    Took (front ++ '"' :: (spelling ++ ['"'])) (closeString stack literal purpose) := by
  cases h with
  | value h => exact took_deliver h (.string spelt.quotes)
  | key outer led all => exact .colon (.key outer led all) spelt.quotes .nil

/-- **A character is taken.** -/
theorem Took.step {s s' : State} {c : Char} (h : Took text s) (next : s.step? c = some s') :
    Took (text ++ [c]) s' := by
  obtain ⟨stack, mode⟩ := s
  cases mode with
  | between expect => exact h.between? next
  | word rest v =>
    cases h with
    | word outer h =>
      simp only [step?] at next
      split at next
      · simp at next
      · split_ifs at next with same
        obtain rfl := Option.some.inj next
        subst same
        simpa using took_deliver outer h
      · split_ifs at next with same
        obtain rfl := Option.some.inj next
        subst same
        simpa using Took.word outer (by simpa using h)
  | string purpose literal escape =>
    cases h with
    | string h quoting =>
      rcases quoting.inString? next with ⟨rfl, rfl, rfl⟩ | ⟨literal', escape', rfl, quoting⟩
      · simpa using took_closeString h quoting.spelt
      · simpa using Took.string h quoting
  | number part literal =>
    cases h with
    | number outer h =>
      simp only [step?, inNumber?] at next
      split at next
      · rename_i part' leads
        obtain rfl := Option.some.inj next
        have written : part'.Written (c :: literal).reverse := by simpa using h.concat leads
        simpa using Took.number outer written
      · split_ifs at next with complete
        obtain ⟨sign, whole, fraction, exponent, number, same⟩ := h.isNumber complete
        have taken : Took (_ ++ literal.reverse) (deliver (.number literal.reverse) stack) :=
          took_deliver outer (same ▸ .number number)
        generalize deliver (.number literal.reverse) stack = s at next taken
        obtain ⟨stack', mode⟩ := s
        cases mode with
        | between expect => exact taken.between? next
        | _ => simp at next

/-- **A text is taken.** -/
theorem Took.run {s s' : State} {more : List Char} (h : Took text s)
    (next : s.run? more = some s') : Took (text ++ more) s' := by
  induction more generalizing s text with
  | nil =>
    obtain rfl := Option.some.inj next
    simpa using h
  | cons c more ih =>
    rw [run?_cons] at next
    obtain ⟨middle, first, rest⟩ := Option.bind_eq_some_iff.1 next
    simpa using ih (h.step first) rest

/-- Where the text may end, a value has been worded. -/
theorem Took.wording {s : State} {v : Value} (h : Took text s) (ends : s.value? = some v) :
    Wording (.padded v) text := by
  unfold State.value? at ends
  split at ends
  · rename_i stack mode
    obtain rfl := Option.some.inj ends
    obtain ⟨_, _⟩ := s
    subst stack mode
    cases h with
    | nothing h => exact h
  · rename_i part literal stack mode
    split_ifs at ends with complete
    obtain rfl := Option.some.inj ends
    obtain ⟨_, _⟩ := s
    subst stack mode
    cases h with
    | number outer h =>
      obtain ⟨sign, whole, fraction, exponent, number, same⟩ := h.isNumber complete
      cases outer with
      | nothing all =>
        rw [same]
        simpa using Wording.padded all .nil (.number number)
  · simp at ends

end State

/-- **The texts that are read as a value are its wordings.** -/
theorem read?_eq_some_iff {v : Value} {text : List Char} :
    read? text = some v ↔ Wording (.padded v) text := by
  refine ⟨fun read => ?_, read?_of_wording⟩
  obtain ⟨s, reached, ends⟩ := Option.bind_eq_some_iff.1 read
  have begun : State.Took [] {} := .value (.nothing .nil)
  exact (begun.run reached).wording ends

end Plotter.Json
