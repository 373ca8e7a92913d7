import Plotter.CommandLine.Arguments

/-!
# Help

What is written for a user who asks for help: on the program, on one of its commands, or on
help itself. A page says what its topic is for, how it is used, and which commands, arguments
and options there are. The options of a command stand among those of the compiler: the first
beside the first and so on, in the order of their names.
-/

namespace Plotter.CommandLine

/-- The name and the version of the program. -/
def versionText : String := "fxplot 0.1.0\n"

namespace CommandName

/-- The word that names a command. -/
def word : CommandName → String
  | plot => "plot"
  | check => "check"
  | repl => "repl"
  | toolchain => "toolchain"

/-- What a command is for. -/
def purpose : CommandName → String
  | plot => "Compile an expression and print its samples"
  | check => "Compile an expression and report diagnostics only"
  | repl => "Read expressions from stdin, one per line"
  | toolchain => "Show the detected toolchain"

theorem ofWord?_word (name : CommandName) : ofWord? name.word = some name := by
  cases name <;> rfl

end CommandName

namespace HelpTopic

/-- What a topic is for. -/
def purpose : HelpTopic → String
  | program => "Compile f(x) expressions at runtime and sample them"
  | command name => name.purpose
  | help => "Print this message or the help of the given subcommand(s)"

/-- How a topic is used. -/
def usage : HelpTopic → String
  | program => "fxplot [OPTIONS] <COMMAND>"
  | command .plot => "fxplot plot [OPTIONS] <EXPRESSION>"
  | command .check => "fxplot check [OPTIONS] <EXPRESSION>"
  | command .repl => "fxplot repl [OPTIONS]"
  | command .toolchain => "fxplot toolchain [OPTIONS]"
  | help => "fxplot help [COMMAND]..."

/-! ### Tables -/

/-- A line of a table with two columns, the first of a given width. -/
def row (width : Nat) (left right : String) : String :=
  "  " ++ left ++ "".pushn ' ' (width - left.length) ++ right ++ "\n"

/-- A part of a page: a heading and lines under it. -/
def part (heading : String) (lines : List String) : String :=
  "\n" ++ heading ++ ":\n" ++ String.join lines

/-- The part of a page that lists the commands. -/
def commandPart : String :=
  let command (name : CommandName) : String := row 11 name.word name.purpose
  part "Commands"
    [command .plot, command .check, command .repl, command .toolchain, row 11 "help" help.purpose]

/-- The argument of a topic, and what it is, where there is one. -/
def argument? : HelpTopic → Option (String × String)
  | command .plot => some ("<EXPRESSION>", "Expression in `x`, e.g. \"x * (sin(x) + cos(x))\"")
  | command .check => some ("<EXPRESSION>", "Expression in `x`")
  | help => some ("[COMMAND]...", "Print help for the subcommand(s)")
  | _ => none

/-- The part of a page that tells of the argument. -/
def argumentPart (topic : HelpTopic) : String :=
  match topic.argument? with
  | some (left, right) => part "Arguments" [row (left.length + 2) left right]
  | none => ""

/-- The options of a topic, in the order of its page. -/
def options : HelpTopic → List OptionName
  | program =>
    [.switch .verbose, .setting .compiler, .setting .optimization, .switch .cranelift,
      .setting .template, .help, .version]
  | command .plot =>
    [.setting .start, .switch .verbose, .setting .stop, .setting .compiler,
      .setting .optimization, .setting .step, .switch .cranelift, .switch .json,
      .setting .template, .help]
  | command .check =>
    [.switch .json, .switch .verbose, .setting .compiler, .setting .optimization,
      .switch .cranelift, .setting .template, .help]
  | command _ =>
    [.switch .verbose, .setting .compiler, .setting .optimization, .switch .cranelift,
      .setting .template, .help]
  | help => []

/-- An option as the page on a topic writes it, and what it does. -/
def description (topic : HelpTopic) : OptionName → String × String
  | .switch .verbose => ("-v, --verbose", "Enable verbose logging")
  | .switch .cranelift =>
    ("    --cranelift", "Use the Cranelift backend when the toolchain has it")
  | .switch .json =>
    ("    --json", "Print JSON instead of " ++ if topic = command .plot then "a table" else "text")
  | .setting .compiler => ("    --rustc <RUSTC>", "Use this rustc instead of the one on PATH")
  | .setting .optimization =>
    ("    --opt-level <OPT_LEVEL>", "Optimization level passed to rustc (0-3) [default: 0]")
  | .setting .template =>
    ("    --template <TEMPLATE>", "Function template file (default: built-in)")
  | .setting .start => ("    --start <START>", "First sample point [default: -10]")
  | .setting .stop => ("    --end <END>", "Last sample point [default: 10]")
  | .setting .step => ("    --step <STEP>", "Distance between sample points [default: 0.1]")
  | .help => ("-h, --help", "Print help")
  | .version => ("-V, --version", "Print version")

/-- The part of a page that lists the options. -/
def optionPart (topic : HelpTopic) : String :=
  match topic.options with
  | [] => ""
  | names =>
    part "Options" <| names.map fun name =>
      let (left, right) := topic.description name
      row 29 left right

/-- The page on a topic. -/
def page (topic : HelpTopic) : String :=
  topic.purpose ++ "\n\nUsage: " ++ topic.usage ++ "\n" ++
    (if topic = program then commandPart else "") ++ topic.argumentPart ++ topic.optionPart

end HelpTopic

end Plotter.CommandLine
