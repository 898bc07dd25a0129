/-!
What the program counts about its work.
-/
namespace CleanupCourier

/-- How a Report was written. -/
inductive WriteOperation where
  | create
  | update
deriving DecidableEq, Repr

def WriteOperation.name : WriteOperation → String
  | .create => "create"
  | .update => "update"

inductive Observation where
  /-- A notification was attempted. -/
  | attempted (label : String) (isSuccess : Bool)
  /-- A Report was written. -/
  | reportWritten (operation : WriteOperation)
  /-- A failure ended the dispatch of the rest. -/
  | aborted
deriving DecidableEq, Repr

end CleanupCourier
