import CleanupCourier.Destination.Sinks
import CleanupCourier.Report.Generation
import CleanupCourier.Report.Upsert

/-!
One pass over the notifications of a Cleaner after a run. The report is made once, at the time
given, and every notification gets the same. They are attempted in order; the first failure ends the
pass and is its result, and what was delivered before it stays delivered.
-/
namespace CleanupCourier

structure Dispatcher (σ : Type) where
  store : ObjectStore σ
  sinks : Sinks σ

namespace Dispatcher

variable {σ : Type}

def ofSettings (store : ObjectStore σ) (network : Network) (settings : Settings) :
    Except DeliveryError (Dispatcher σ) :=
  (Sinks.ofSettings store network settings).map (⟨store, ·⟩)

def target : String := logTarget ["notifications", "dispatch"]

def span (n : Notification) : Span :=
  ⟨"notification", target, [("notification", .text n.logTag)]⟩

/-- Brings the report to a sink. Its text is made for the first sink that takes it and kept for all
that come after. -/
def bring (cleanerName : String) (report : ReportSpec) (kept : Option String) (sink : Sink σ)
    (n : Notification) : Attempt σ DeliveryError (Option String) := do
  let payload := kept.getD report.payload
  sink ⟨payload, reportMessage cleanerName⟩ n
  return some payload

/-- Hands one notification to the one who is in charge of its type; gives the text of the report if
it has been made by then. -/
def deliver (dispatcher : Dispatcher σ) (cleanerName : String) (report : ReportSpec)
    (kept : Option String) (n : Notification) : Attempt σ DeliveryError (Option String) :=
  let bring := bring cleanerName report kept
  match n.type with
  | .cleanerReport => do
    let _ ← (Report.upsert dispatcher.store cleanerName report).mapError DeliveryError.store
    return kept
  | .slack => bring dispatcher.sinks.slack n
  | .teams => bring dispatcher.sinks.teams n
  | .discord => bring dispatcher.sinks.discord n
  | .webex => bring dispatcher.sinks.webex n
  | .smtp => bring dispatcher.sinks.smtp n
  | .unsupported name => throw (.unsupportedType (.unsupported name))

/-- Attempts one notification inside its span, and takes down how that went. -/
def attempt (dispatcher : Dispatcher σ) (cleanerName : String) (report : ReportSpec)
    (kept : Option String) (n : Notification) : Work σ (Except DeliveryError (Option String)) := do
  let result ← Work.within (span n) (dispatcher.deliver cleanerName report kept n).run
  Work.observe (.attempted n.type.label result.toBool)
  if let .error error := result then
    Work.within (span n)
      (Work.log .info target ("failed to send notification: " ++ error.message))
    Work.observe .aborted
  return result

/-- Attempts notifications in order, up to the first that fails. -/
def attemptAll (dispatcher : Dispatcher σ) (cleanerName : String) (report : ReportSpec) :
    Option String → List Notification → Attempt σ DeliveryError Unit
  | _, [] => pure ()
  | kept, n :: rest => do
    let kept ← ExceptT.mk (dispatcher.attempt cleanerName report kept n)
    dispatcher.attemptAll cleanerName report kept rest

/-- Brings the report of a run of a Cleaner to all that are to be notified. -/
def sendNotifications (dispatcher : Dispatcher σ) (now : Instant)
    (results : List ResourceResult) (cleaner : Cleaner) : Attempt σ DeliveryError Unit :=
  if cleaner.spec.notifications.isEmpty then
    Attempt.log .debug target "no notifications configured"
  else
    dispatcher.attemptAll cleaner.anyName (.generate results cleaner.spec.action now) none
      cleaner.spec.notifications

end Dispatcher

end CleanupCourier
