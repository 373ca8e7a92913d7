import Plotter.Text.Blank

/-!
# Diagnostics

One message of the compiler, or of the host itself: how severe it is, what it says,
where in the generated source it points, and, when that place lies on the first line
of the user's expression, at which of its columns. Lines and columns are counted from
one in 64-bit words.
-/

namespace Plotter

/-- How severe a message is. -/
inductive Severity
  | error
  | warning
  | note
  | help
  deriving Repr, DecidableEq

/-- The severity that a level's text stands for. The compiler qualifies a level by
what follows it (`error: internal compiler error`), and has levels besides these four,
all of which are notes. -/
def Severity.ofLevel (level : String) : Severity :=
  let text := level.toList
  if "error".toList.isPrefixOf text then .error
  else if "warning".toList.isPrefixOf text then .warning
  else if level = "help" then .help
  else .note

/-- The word for a severity. -/
def Severity.word : Severity → String
  | .error => "error"
  | .warning => "warning"
  | .note => "note"
  | .help => "help"

/-- A place in a source text, its line and column counted from one. -/
structure Location where
  line : UInt64
  column : UInt64
  deriving Repr, DecidableEq

/-- A diagnostic. -/
structure Diagnostic where
  /-- How severe it is. -/
  severity : Severity
  /-- The code that the compiler files it under. -/
  code : Option String := none
  /-- What it says. -/
  message : String
  /-- Where it points in the generated source. -/
  location : Option Location := none
  /-- The column of the expression that it points at. -/
  expressionColumn : Option UInt64 := none
  /-- The compiler's own rendering, with an excerpt of the source. -/
  rendered : Option String := none
  deriving Repr, DecidableEq

namespace Diagnostic

/-- An error that the compiler did not report. -/
def ofError (message : String) : Diagnostic := { severity := .error, message }

/-- A line of the compiler's output that is no report. -/
def ofLine (line : String) : Diagnostic := { severity := .note, message := line }

/-- Whether it is an error. -/
def isError (d : Diagnostic) : Bool := d.severity == .error

/-- The one-line form: `level[code]: message (at column n)`. -/
def display (d : Diagnostic) : String :=
  let heading := match d.code with
    | some code => d.severity.word ++ "[" ++ code ++ "]: " ++ d.message
    | none => d.severity.word ++ ": " ++ d.message
  match d.expressionColumn with
  | some column => heading ++ " (at column " ++ toString column.toNat ++ ")"
  | none => heading

/-- The one-line forms, each followed by a line feed. -/
def renderAll (ds : List Diagnostic) : String :=
  String.join (ds.map fun d => d.display ++ "\n")

end Diagnostic

/-- What kind of fault made a compilation fail. -/
inductive FaultKind
  /-- The expression could not be parsed. -/
  | syntactic
  /-- The expression was parsed, but some name or type in it is wrong. -/
  | typing
  deriving Repr, DecidableEq

/-- The words for a kind of fault. -/
def FaultKind.words : FaultKind → String
  | .syntactic => "syntax error"
  | .typing => "type error"

/-- The kind of fault that diagnostics tell of. The compiler files errors of names and
types under a code and errors of parsing under none, so an error with a code shows that
the expression was parsed. -/
def FaultKind.ofDiagnostics (ds : List Diagnostic) : FaultKind :=
  if ds.any fun d => d.isError && d.code.isSome then .typing else .syntactic

end Plotter
