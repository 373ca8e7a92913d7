import Plotter.Failure

/-!
# Notices

What a host remarks on the side, apart from the answers to requests.
-/

namespace Plotter

/-- A notice. -/
inductive Notice
  /-- A library could not be loaded, and another attempt is made. -/
  | retrying (failure : Failure)
  /-- A library does not offer what every library should. -/
  | violation (failure : Failure)
  /-- A request failed for a reason other than its expression. -/
  | failed (expression : String) (failure : Failure)
  /-- A library could not be removed. -/
  | notRemoved (path : String) (fault : SystemFault)

namespace Notice

/-- How severe a notice is. -/
def severity : Notice → Severity
  | violation _ => .error
  | _ => .warning

/-- The text of a notice. -/
def text : Notice → String
  | retrying failure => failure.message ++ "; retrying with fresh names"
  | violation failure => "Generated unit violates the function capability: " ++ failure.message
  | failed expression failure => "Evaluation of `" ++ expression ++ "` failed: " ++ failure.message
  | notRemoved path fault => "Failed to remove " ++ path ++ ": " ++ fault.message

/-- The notice for a request that failed, if there is one: the compiler's own complaints are
for the user alone. -/
def ofFailure? (expression : String) : Failure → Option Notice
  | .compilation _ _ => none
  | .capability unit shortfall => some (violation (.capability unit shortfall))
  | failure => some (failed expression failure)

end Notice

end Plotter
