import Plotter.Decimal.Reader
import Plotter.Host.Basic

/-!
# Arguments

The words of a command line are read from left to right. The first word that is no option
names the command, and the words after it belong to the command. Options that concern the
compiler may stand on either side of the command's name; the one after it counts. At each of
the two levels an option may be given once.

An option's value is the rest of its word after an equals sign, or else the next word. That
word may begin with a hyphen only where numbers are expected that may be negative. It is looked
at when the next option or other word of its level is read, or at the end; whoever asks for
help first is given help. After two hyphens all words are taken as they are.

Instead of a command, `help` may be named; the words after it name the command to be explained.
-/

namespace Plotter.CommandLine

/-- What the user wants done. -/
inductive Action
  /-- Compile an expression and print its samples. -/
  | plot (expression : String) (start stop step : Option Float) (json : Bool)
  /-- Compile an expression. -/
  | check (expression : String) (json : Bool)
  /-- Read expressions and summarise their functions. -/
  | repl
  /-- Show the toolchain. -/
  | toolchain

/-- A command line that was understood. -/
structure Invocation where
  verbose : Bool
  compiler : Option String
  optimization : UInt8
  cranelift : Bool
  template : Option String
  action : Action

/-- The commands. -/
inductive CommandName
  | plot
  | check
  | repl
  | toolchain
  deriving Repr, DecidableEq

/-- The command that a word names. -/
def CommandName.ofWord? : String → Option CommandName
  | "plot" => some .plot
  | "check" => some .check
  | "repl" => some .repl
  | "toolchain" => some .toolchain
  | _ => none

/-- What help is given on. -/
inductive HelpTopic
  | program
  | command (name : CommandName)
  /-- Help itself. -/
  | help
  deriving Repr, DecidableEq

/-- Why nothing is done. -/
inductive Stop
  /-- The words make no sense. -/
  | misuse
  /-- The user asks for the version. -/
  | version
  /-- The user asks for help. -/
  | help (topic : HelpTopic)
  deriving Repr, DecidableEq

/-- What is made of the words after `help`: one may follow, and it names a command or `help`
itself. -/
def Stop.ofTopics : List String → Stop
  | [] => .help .program
  | [topic] =>
    if topic = "help" then .help .help
    else match CommandName.ofWord? topic with
      | some name => .help (.command name)
      | none => .misuse
  | _ => .misuse

/-! ### Options -/

/-- Options without a value. -/
inductive Switch
  | verbose
  | cranelift
  | json
  deriving Repr, DecidableEq

/-- Options with a value. -/
inductive Setting
  | compiler
  | optimization
  | template
  | start
  | stop
  | step
  deriving Repr, DecidableEq

/-- Whether the word after the option is its value even if it begins with a hyphen. -/
def Setting.takesHyphen : Setting → Bool
  | .start | .stop => true
  | _ => false

/-- What an option's name stands for. -/
inductive OptionName
  | switch (s : Switch)
  | setting (s : Setting)
  | version
  | help
  deriving Repr, DecidableEq

/-- The option with a name, before the command's name or after it. -/
def OptionName.ofWord? (command : Option CommandName) (name : String) : Option OptionName :=
  match name with
  | "verbose" => some (.switch .verbose)
  | "rustc" => some (.setting .compiler)
  | "opt-level" => some (.setting .optimization)
  | "cranelift" => some (.switch .cranelift)
  | "template" => some (.setting .template)
  | "help" => some .help
  | "version" => if command = none then some .version else none
  | "json" => if command = some .plot ∨ command = some .check then some (.switch .json) else none
  | "start" => if command = some .plot then some (.setting .start) else none
  | "end" => if command = some .plot then some (.setting .stop) else none
  | "step" => if command = some .plot then some (.setting .step) else none
  | _ => none

/-- The option with a short name. -/
def OptionName.ofLetter? (command : Option CommandName) (c : Char) : Option OptionName :=
  if c = 'v' then some (.switch .verbose)
  else if c = 'h' then some .help
  else if c = 'V' ∧ command = none then some .version
  else none

/-- What was given at one level. -/
structure Given where
  switches : List Switch := []
  compiler : Option String := none
  optimization : Option UInt8 := none
  template : Option String := none
  start : Option Float := none
  stop : Option Float := none
  step : Option Float := none
  /-- The setting given last and its value, while that has not been looked at. -/
  held : Option (Setting × String) := none
  /-- The words that are no options, latest first. -/
  words : List String := []

/-- The level of optimization that a text stands for: a whole number with perhaps a sign
that a byte holds. -/
def optimization? (text : String) : Option UInt8 :=
  let (negative, ds) := Decimal.takeSign text.toList
  if ds.isEmpty || !ds.all Char.isDigit then none
  else
    let n := Decimal.wholeOf ds
    if (negative && n ≠ 0) || 255 < n then none else some (UInt8.ofNat n)

/-- A path: any text but the empty one. -/
def path? (text : String) : Option String := if text.isEmpty then none else some text

namespace Given

/-- Give a switch, which may not have been given. -/
def addSwitch (g : Given) (s : Switch) : Except Stop Given :=
  if g.switches.contains s then .error .misuse else .ok { g with switches := s :: g.switches }

/-- A value that must make sense, where none has been given. -/
def fresh {α : Type} (old new : Option α) : Except Stop (Option α) :=
  match old, new with
  | none, some a => .ok (some a)
  | _, _ => .error .misuse

/-- Give a setting a value; it may not have one. -/
def addSetting (g : Given) (s : Setting) (text : String) : Except Stop Given :=
  match s with
  | .compiler => (fresh g.compiler (path? text)).map fun compiler => { g with compiler }
  | .optimization =>
    (fresh g.optimization (optimization? text)).map fun optimization => { g with optimization }
  | .template => (fresh g.template (path? text)).map fun template => { g with template }
  | .start => (fresh g.start (Decimal.float? text.toList)).map fun start => { g with start }
  | .stop => (fresh g.stop (Decimal.float? text.toList)).map fun stop => { g with stop }
  | .step => (fresh g.step (Decimal.float? text.toList)).map fun step => { g with step }

/-- Look at the value that has not been looked at. -/
def settle (g : Given) : Except Stop Given :=
  match g.held with
  | some (setting, text) => { g with held := none }.addSetting setting text
  | none => .ok g

end Given

/-! ### Reading words -/

/-- How far the words were read. -/
structure State where
  /-- What was given before the command's name, once that was read. -/
  outer : Given := {}
  command : Option CommandName := none
  /-- What was given at the level that is being read. -/
  given : Given := {}
  /-- The setting whose value is the next word. -/
  pending : Option Setting := none
  /-- Whether two hyphens were read. -/
  verbatim : Bool := false
  /-- The words since `help`, latest first, once that was read. -/
  topics : Option (List String) := none

namespace State

/-- How many words a command takes that are no options. -/
def wordLimit : CommandName → Nat
  | .plot | .check => 1
  | .repl | .toolchain => 0

/-- Read a word that is no option. -/
def readPlain (s : State) (word : String) : Except Stop State :=
  match s.command with
  | none =>
    if s.verbatim then .error .misuse
    else if word = "help" then .ok { s with topics := some [] }
    else match CommandName.ofWord? word with
      | some command => .ok { s with outer := s.given, command := some command, given := {} }
      | none => .error .misuse
  | some command => do
    let given ← s.given.settle
    if given.words.length < wordLimit command then
      .ok { s with given := { given with words := word :: given.words } }
    else .error .misuse

/-- What help is given on at the level that is being read. -/
def topic (s : State) : HelpTopic :=
  match s.command with
  | some name => .command name
  | none => .program

/-- Read an option by its name, with the value in its word if there is one. -/
def readOption (s : State) (name : OptionName) (value : Option String) : Except Stop State := do
  let given ← s.given.settle
  match name, value with
  | .switch switch, none => return { s with given := ← given.addSwitch switch }
  | .setting setting, none => return { s with given, pending := some setting }
  | .setting setting, some text => return { s with given := ← given.addSetting setting text }
  | .version, none => .error .version
  | .help, none => .error (.help s.topic)
  | _, some _ => .error .misuse

/-- Read options by their letters. -/
def readLetters (s : State) : List Char → Except Stop State
  | [] => .ok s
  | c :: rest =>
    match OptionName.ofLetter? s.command c with
    | some name => (s.readOption name none).bind fun s => s.readLetters rest
    | none => .error .misuse

/-- Read a word that may be an option. -/
def readWord (s : State) (word : String) : Except Stop State :=
  match word.toList with
  | ['-', '-'] => .ok { s with verbatim := true }
  | '-' :: '-' :: rest =>
    let name := String.ofList (rest.takeWhile (· != '='))
    let value := match rest.dropWhile (· != '=') with
      | _ :: value => some (String.ofList value)
      | [] => none
    match OptionName.ofWord? s.command name with
    | some name => s.readOption name value
    | none => .error .misuse
  | '-' :: c :: rest => s.readLetters (c :: rest)
  | _ => s.readPlain word

/-- Whether a word is taken for an option where an option may stand. -/
def looksLikeOption (word : String) : Bool :=
  match word.toList with
  | '-' :: _ :: _ => true
  | _ => false

/-- Read a word. -/
def read (s : State) (word : String) : Except Stop State :=
  match s.topics, s.pending with
  | some topics, _ => .ok { s with topics := some (word :: topics) }
  | none, some setting =>
    if looksLikeOption word && !setting.takesHyphen then .error .misuse
    else .ok { s with given.held := some (setting, word), pending := none }
  | none, none => if s.verbatim then s.readPlain word else s.readWord word

/-- What the user wants done, when all words were read. -/
def action? (s : State) : Option Action :=
  let json := s.given.switches.contains .json
  match s.command, s.given.words with
  | some .plot, [expression] =>
    some (.plot expression s.given.start s.given.stop s.given.step json)
  | some .check, [expression] => some (.check expression json)
  | some .repl, [] => some .repl
  | some .toolchain, [] => some .toolchain
  | _, _ => none

/-- The invocation that the two levels make, when all words were read and looked at. -/
def invocation (s : State) : Except Stop Invocation :=
  match s.pending, s.action? with
  | none, some action =>
    .ok
      { verbose := (s.given.switches ++ s.outer.switches).contains .verbose
        compiler := s.given.compiler <|> s.outer.compiler
        optimization := (s.given.optimization <|> s.outer.optimization).getD 0
        cranelift := (s.given.switches ++ s.outer.switches).contains .cranelift
        template := s.given.template <|> s.outer.template
        action }
  | _, _ => .error .misuse

/-- The invocation, when all words were read. -/
def finish (s : State) : Except Stop Invocation :=
  match s.topics with
  | some topics => .error (.ofTopics topics)
  | none => do
    let given ← s.given.settle
    let outer ← s.outer.settle
    { s with given, outer }.invocation

end State

/-- The invocation that words stand for. -/
def Invocation.ofWords (words : List String) : Except Stop Invocation := do
  let s ← words.foldlM State.read {}
  s.finish

/-- The settings for the host that an invocation asks for. -/
def Invocation.hostSettings (i : Invocation) : HostSettings :=
  { compiler :=
      { compiler := i.compiler, cranelift := i.cranelift, optimization := i.optimization }
    template := match i.template with
      | some path => .file path
      | none => .builtin }

end Plotter.CommandLine
