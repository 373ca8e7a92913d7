import Plotter.Decimal.Layout
import Plotter.Diagnostic.Basic
import Plotter.Library
import Plotter.SystemFault
import Plotter.Template.Basic
import Plotter.Text.Utf8

/-!
# Failures

Everything that can go wrong, by its cause, and the one place where the words for it are
found. A failure that a new attempt or another expression may cure is recoverable; one of
the set-up would only be met again.
-/

namespace Plotter

/-- Why a template's text was not obtained. -/
inductive ReadFault
  /-- The system reports a fault at the path. -/
  | system (path : String) (fault : SystemFault)
  /-- The bytes are no text. -/
  | notText (path : String) (fault : Text.Utf8.Fault)
  /-- A reason told in words. -/
  | described (reason : String)
  deriving Repr, DecidableEq

/-- The words for the fault. -/
def ReadFault.words : ReadFault → String
  | system path fault => path ++ ": " ++ fault.message
  | notText path fault => path ++ ": not valid UTF-8: " ++ fault.message
  | described reason => reason

/-- Why a text is no template. -/
inductive TemplateDefect
  /-- It lacks placeholders. -/
  | missing (placeholders : List Placeholder)
  /-- A reason told in words. -/
  | described (reason : String)
  deriving Repr, DecidableEq

/-- The words for the defect. -/
def TemplateDefect.words : TemplateDefect → String
  | missing ps => "missing placeholder(s): " ++ ", ".intercalate (ps.map Placeholder.token)
  | described reason => reason

/-- Why the compiler cannot be used. -/
inductive ToolFault
  /-- No compiler is on the search path. -/
  | notFound
  /-- It could not be started. -/
  | unstartable (path : String) (fault : SystemFault)
  /-- It would not tell its version. -/
  | versionless (path : String) (status : ExitStatus)
  /-- A reason told in words. -/
  | described (reason : String)
  deriving Repr, DecidableEq

/-- The words for the fault. -/
def ToolFault.words : ToolFault → String
  | notFound => "rustc not found in PATH"
  | unstartable path fault => "Failed to run " ++ path ++ ": " ++ fault.message
  | versionless path status => path ++ " --version exited with " ++ status.words
  | described reason => reason

/-- Why a library could not be loaded. -/
inductive LoadFault
  /-- What is at the path cannot be loaded. -/
  | refused
  /-- The path holds a zero character before its end. -/
  | zeroInPath
  deriving Repr, DecidableEq

/-- The words for the fault. -/
def LoadFault.words : LoadFault → String
  | refused => "dlopen failed"
  | zeroInPath => "interior zero element in parameter"

/-- The largest number of points that a domain may have. -/
def maxPoints : Nat := 10000000

/-- What is wrong with a setting. -/
inductive ConfigDefect
  /-- The base of package names is no identifier. -/
  | packageBase (text : String)
  /-- There is no such level of optimization. -/
  | optimization (level : UInt8)
  /-- The step between sample points is not a positive number. -/
  | step (width : Float)
  /-- The bounds of the sample points are no numbers, or the wrong way round. -/
  | range (start stop : Float)
  /-- There would be too many sample points. -/
  | tooMany (start stop width : Float)
  /-- A reason told in words. -/
  | described (reason : String)

/-- The words for the defect. -/
def ConfigDefect.words : ConfigDefect → String
  | .packageBase text => "package base `" ++ text ++ "` is not a valid identifier"
  | .optimization level => "opt_level must be 0-3, got " ++ toString level.toNat
  | .step width => "sample step must be positive, got " ++ Decimal.Style.plain.render width
  | .range start stop =>
    "invalid sample range " ++ Decimal.Style.plain.render start ++ ".." ++
      Decimal.Style.plain.render stop
  | .tooMany start stop width =>
    "sample step " ++ Decimal.Style.plain.render width ++ " over " ++
      Decimal.Style.plain.render start ++ ".." ++ Decimal.Style.plain.render stop ++
      " exceeds " ++ toString maxPoints ++ " points"
  | .described reason => reason

/-- A failure. -/
inductive Failure
  /-- No template is at the path. -/
  | templateMissing (path : String)
  /-- The template could not be read. -/
  | templateUnreadable (fault : ReadFault)
  /-- The template lacks something. -/
  | templateMalformed (defect : TemplateDefect)
  /-- The compiler did not accept the unit. -/
  | compilation (unit : String) (diagnostics : List Diagnostic)
  /-- The library is not accepted. -/
  | capability (unit : String) (shortfall : Shortfall)
  /-- The library could not be loaded. -/
  | loading (fault : LoadFault)
  /-- The library made no instance. -/
  | instantiation (unit : String) (reason : String)
  /-- The compiler cannot be used. -/
  | toolchain (fault : ToolFault)
  /-- The system reports a fault. -/
  | system (fault : SystemFault)
  /-- A request in the background ended before its time. -/
  | task (reason : String)
  /-- A setting is wrong. -/
  | configuration (defect : ConfigDefect)

namespace Failure

/-- The text of a failure. -/
def message : Failure → String
  | templateMissing path => "function template not found: " ++ path
  | templateUnreadable fault => "failed to read function template: " ++ fault.words
  | templateMalformed defect => "malformed function template: " ++ defect.words
  | compilation unit ds =>
    (FaultKind.ofDiagnostics ds).words ++ " in `" ++ unit ++ "` (" ++ toString ds.length ++
      " diagnostics)"
  | capability unit shortfall => "capability mismatch in `" ++ unit ++ "`: " ++ shortfall.words
  | loading fault => "failed to load library: " ++ fault.words
  | instantiation unit reason => "failed to instantiate `" ++ unit ++ "`: " ++ reason
  | toolchain fault => "toolchain error: " ++ fault.words
  | system fault => "IO error: " ++ fault.message
  | task reason => "compilation task failed: " ++ reason
  | configuration defect => "invalid configuration: " ++ defect.words

/-- Whether another attempt or another expression may fare better. -/
def isRecoverable : Failure → Bool
  | compilation _ _ | loading _ | instantiation _ _ | task _ => true
  | _ => false

/-- The compiler's diagnostics, for a failure that it reported. -/
def diagnostics : Failure → List Diagnostic
  | compilation _ ds => ds
  | _ => []

/-- What the user is told: the compiler's diagnostics, or else one that gives the
failure's text. -/
def explanation : Failure → List Diagnostic
  | compilation _ ds => ds
  | failure => [.ofError failure.message]

/-- Whether the failure is one of loading the library, which may be a matter of chance. -/
def isLoading : Failure → Bool
  | loading _ => true
  | _ => false

end Failure

end Plotter
