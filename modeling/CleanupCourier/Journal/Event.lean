/-!
Log events. An event says what happened, how grave it is, which part of the program tells it, and in
which spans of work it happened, the outermost first.
-/
namespace CleanupCourier

/-- The name of a part of the program in its log. -/
def logTarget (part : List String) : String :=
  "::".intercalate ("cleaner_notifier" :: part)

inductive Level where
  | error
  | warn
  | info
  | debug
  | trace
deriving DecidableEq, Repr

namespace Level

def name : Level → String
  | .error => "ERROR"
  | .warn => "WARN"
  | .info => "INFO"
  | .debug => "DEBUG"
  | .trace => "TRACE"

/-- Counts from one, the gravest first. -/
def rank : Level → Nat
  | .error => 1
  | .warn => 2
  | .info => 3
  | .debug => 4
  | .trace => 5

end Level

/-- The value of a field of a span. -/
inductive FieldValue where
  | text (s : String)
  | number (n : Nat)
deriving DecidableEq, Repr

def FieldValue.shown : FieldValue → String
  | .text s => s
  | .number n => toString n

/-- A stretch of work with what is known about it. All spans are of the level `info`. -/
structure Span where
  name : String
  target : String
  fields : List (String × FieldValue)
deriving DecidableEq, Repr

structure Event where
  level : Level
  target : String
  spans : List Span
  message : String
deriving DecidableEq, Repr

def Span.render (s : Span) : String :=
  let fields := s.fields.map fun (key, value) => key ++ "=" ++ value.shown
  s.name ++ "\x7b" ++ " ".intercalate fields ++ "\x7d"

/-- The event on one line: level, spans, message. -/
def Event.render (e : Event) : String :=
  let spans := e.spans.map Span.render
  if spans.isEmpty then e.level.name ++ " " ++ e.message
  else e.level.name ++ " " ++ ": ".intercalate (spans ++ [e.message])

end CleanupCourier
