/-!
What a notification brings to its destination, whichever that is.
-/
namespace CleanupCourier

structure Delivery where
  /-- The report as text. -/
  payload : String
  /-- The line that introduces the report. -/
  message : String
deriving DecidableEq, Repr

/-- The name of the file that holds the report. -/
def reportFileName : String := "k8s-cleaner-report"

end CleanupCourier
