import Plotter.Diagnostic.Basic
import Plotter.Notice
import Plotter.Text.Hex

/-!
# Paint

Terminal colours, and the forms in which diagnostics and notices are shown on a terminal.
-/

namespace Plotter.CommandLine

/-- How a piece of text is painted. -/
inductive Paint
  | bold
  | dim
  | red
  | green
  | yellow
  | cyan
  deriving Repr, DecidableEq

/-- The code that turns a paint on. -/
def Paint.code : Paint → String
  | .bold => "\x1b[1m"
  | .dim => "\x1b[2m"
  | .red => "\x1b[31m"
  | .green => "\x1b[32m"
  | .yellow => "\x1b[33m"
  | .cyan => "\x1b[36m"

/-- The code that turns every paint off. -/
def reset : String := "\x1b[0m"

/-- A painted text. -/
def Paint.apply (p : Paint) (text : String) : String := p.code ++ text ++ reset

/-- The paint for a severity. -/
def Paint.ofSeverity : Severity → Paint
  | .error => .red
  | .warning => .yellow
  | .note | .help => .dim

/-- A diagnostic as a line. -/
def diagnosticLine (d : Diagnostic) : String :=
  (Paint.ofSeverity d.severity).apply d.display ++ "\n"

/-- A character in a notice: one that a terminal would obey is spelt out, but for tabs and
line ends. -/
def noticeChar (c : Char) : List Char :=
  if c = '\x1b' || c = '\x07' || c = '\x08' || c = '\x0c' || c = '\x7f' then
    '\\' :: 'x' :: Text.hexDigits 2 c.toNat
  else if 0x80 ≤ c.toNat && c.toNat ≤ 0x9F then
    ['\\', 'u', '\x7b'] ++ Text.hexDigits 2 c.toNat ++ ['\x7d']
  else [c]

/-- A notice as a line. -/
def noticeLine (n : Notice) : String :=
  (if n.severity = .error then "ERROR " else "WARN ") ++
    String.ofList (n.text.toList.flatMap noticeChar) ++ "\n"

end Plotter.CommandLine
