import CleanupCourier.Report.Basic
import CleanupCourier.Time.Stamp

/-!
Making a report: one entry for each resource that a run acted on, its message followed by the time
at which the report was made.
-/
namespace CleanupCourier

/-- The outcome of a run for one resource. -/
structure ResourceResult where
  resource : ResourceRef
  message : String
deriving DecidableEq, Repr

/-- Stands between a message and the time stamp. -/
def timeSeparator : String := ". time: "

def ResourceResult.stamped (r : ResourceResult) (t : Instant) : ResourceInfo :=
  ⟨r.resource, r.message ++ timeSeparator ++ t.stamp⟩

def ReportSpec.generate (results : List ResourceResult) (action : Action) (t : Instant) :
    ReportSpec :=
  ⟨action, results.map (·.stamped t)⟩

/-- The line that introduces the report of a Cleaner. -/
def reportMessage (cleanerName : String) : String :=
  "This report has been generated by k8s-cleaner for instance: " ++ cleanerName

end CleanupCourier
