import CleanupCourier.Json.Number
import CleanupCourier.KeyMap
import CleanupCourier.Metrics.Observation

/-!
The metrics: counters of what was observed, and a histogram of how long deliveries took. A sample is
one line of the exposed text; an observation raises some samples by one.
-/
namespace CleanupCourier

inductive MetricKind where
  | counter
  | histogram
deriving DecidableEq, Repr

def MetricKind.name : MetricKind → String
  | .counter => "counter"
  | .histogram => "histogram"

structure MetricFamily where
  name : String
  help : String
  kind : MetricKind
deriving DecidableEq, Repr

/-- The two comments that stand above the samples of a family. -/
def MetricFamily.comments (f : MetricFamily) : List String :=
  [s!"HELP {f.name} {f.help}", s!"TYPE {f.name} {f.kind.name}"]

/-- A line of the exposed text without its value; the labels stand in the order of the line. -/
structure Sample where
  family : MetricFamily
  ending : String := ""
  labels : List (String × String) := []
deriving DecidableEq, Repr

namespace Sample

def escapeLabel (s : String) : String :=
  String.ofList (s.toList.flatMap fun
    | '\\' => ['\\', '\\']
    | '"' => ['\\', '"']
    | '\n' => ['\\', 'n']
    | c => [c])

def key (s : Sample) : String :=
  let labels := ",".intercalate (s.labels.map fun (name, value) =>
    name ++ "=\"" ++ escapeLabel value ++ "\"")
  s.family.name ++ s.ending ++ if s.labels.isEmpty then "" else "\x7b" ++ labels ++ "\x7d"

end Sample

namespace Metrics

def notifications : MetricFamily :=
  ⟨"cleaner_notifications_total", "Total number of notifications attempted", .counter⟩

def durations : MetricFamily :=
  ⟨"cleaner_notification_duration_seconds", "Duration of notification delivery in seconds",
    .histogram⟩

def reportsWritten : MetricFamily :=
  ⟨"cleaner_reports_written_total", "Total number of Report objects written", .counter⟩

def dispatchesAborted : MetricFamily :=
  ⟨"cleaner_notification_dispatch_aborted_total",
    "Total number of dispatch cycles stopped by a failed notification", .counter⟩

/-- All families in the order of their names. -/
def families : List MetricFamily :=
  [dispatchesAborted, durations, notifications, reportsWritten]

def outcome (isSuccess : Bool) : String :=
  if isSuccess then "success" else "failure"

/-- The samples that an attempt raises, however long it took. -/
def attempted (label : String) (isSuccess : Bool) : List Sample :=
  [{ family := notifications, labels := [("outcome", outcome isSuccess), ("type", label)] },
    { family := durations, ending := "_count", labels := [("type", label)] }]

def written (operation : String) : List Sample :=
  [{ family := reportsWritten, labels := [("operation", operation)] }]

def aborted : List Sample :=
  [{ family := dispatchesAborted }]

/-- The families that have a sample among some, in order. -/
def changed (samples : List Sample) : List MetricFamily :=
  families.filter fun f => samples.any (·.family = f)

/-- How much each sample is raised, by its line. -/
def increases (samples : List Sample) : KeyMap Nat :=
  samples.foldl (fun counts s => counts.insert s.key ((counts.find? s.key).getD 0 + 1)) .empty

end Metrics

def Observation.samples : Observation → List Sample
  | .attempted label isSuccess => Metrics.attempted label isSuccess
  | .reportWritten operation => Metrics.written operation.name
  | .aborted => Metrics.aborted

/-- A span of time in seconds, `mantissa` times ten to the power of `exponent`. -/
structure Duration where
  mantissa : Int
  exponent : Int
deriving DecidableEq, Repr

namespace Duration

/-- Reads a decimal number. -/
def ofDecimal (text : String) : Duration :=
  let s := text.toList
  let isNegative := s.head? == some '-'
  let (whole, fraction, exponent) := NumberValue.parts (if isNegative then s.tail else s)
  let digits : Nat := (whole ++ fraction).foldl (fun n c => n * 10 + (c.toNat - 48)) 0
  ⟨if isNegative then -digits else digits, exponent - fraction.length⟩

/-- Whether a duration is at most a number of hundredths of a second. -/
def isWithin (d : Duration) (hundredths : Nat) : Bool :=
  d.mantissa * 100 * (Nat.pow 10 d.exponent.toNat : Nat) ≤
    (hundredths * Nat.pow 10 (-d.exponent).toNat : Nat)

/-- The upper bounds of the histogram, in hundredths of a second, with their texts. -/
def bounds : List (Nat × String) :=
  [(5, "0.05"), (10, "0.1"), (50, "0.5"), (100, "1"), (200, "2"), (500, "5"), (1000, "10")]

/-- The buckets of the histogram that a delivery of this duration falls into. -/
def buckets (d : Duration) (label : String) : List Sample :=
  let fitting := (bounds.filter fun bound => d.isWithin bound.1).map (·.2)
  (fitting ++ ["+Inf"]).map fun bound =>
    { family := Metrics.durations, ending := "_bucket", labels := [("type", label), ("le", bound)] }

end Duration

end CleanupCourier
