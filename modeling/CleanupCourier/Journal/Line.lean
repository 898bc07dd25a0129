import CleanupCourier.Journal.Filter
import CleanupCourier.Json.Basic
import CleanupCourier.Text.Hex

/-!
Events as they are printed: as JSON, with the innermost span, or as text, with all spans, in colours
if wanted. Text starts with the time, which is the caller's. Characters of a message that could
steer a terminal are escaped.
-/
namespace CleanupCourier

/-- How a process logs. -/
inductive LogFormat where
  | json
  | text (inColor : Bool)
deriving DecidableEq, Repr

def LogFormat.ofSettings (s : Settings) : LogFormat :=
  if s.logFormat.toList.map Char.toLower = "json".toList then .json else .text s.logColor

namespace Terminal

/-- Puts a text into one of the ways a terminal can show it, if wanted. -/
def styled (inColor : Bool) (code text : String) : String :=
  if inColor then "\x1b[" ++ code ++ "m" ++ text ++ "\x1b[0m" else text

def bold : String := "1"

def dim : String := "2"

def italic : String := "3"

def colorOf : Level → String
  | .error => "31"
  | .warn => "33"
  | .info => "32"
  | .debug => "34"
  | .trace => "35"

def escapeChar (c : Char) : List Char :=
  let n := c.toNat
  if [0x1B, 0x07, 0x08, 0x0C, 0x7F].contains n then
    '\\' :: 'x' :: (hexOctets [UInt8.ofNat n]).toList
  else if 0x80 ≤ n ∧ n ≤ 0x9F then "\\u\x7b".toList ++ Nat.toDigits 16 n ++ ['\x7d']
  else [c]

def escape (s : String) : String :=
  String.ofList (s.toList.flatMap escapeChar)

end Terminal

open Terminal

def Span.text (inColor : Bool) (s : Span) : String :=
  let field (f : String × FieldValue) : String :=
    styled inColor italic f.1 ++ styled inColor dim "=" ++ f.2.shown
  styled inColor bold s.name ++ styled inColor bold "\x7b" ++
    " ".intercalate (s.fields.map field) ++ styled inColor bold "\x7d" ++ styled inColor dim ":"

def Level.padded (l : Level) : String :=
  if l.name.length < 5 then " " ++ l.name else l.name

/-- An event as text, after a time. -/
def Event.text (time : String) (inColor : Bool) (e : Event) : String :=
  let spans := String.join (e.spans.map (Span.text inColor))
  styled inColor dim time ++ " " ++ styled inColor (colorOf e.level) e.level.padded ++ " " ++
    spans ++ (if e.spans.isEmpty then "" else " ") ++ styled inColor dim e.target ++
    styled inColor dim ":" ++ " " ++ escape e.message

def FieldValue.encode : FieldValue → Json
  | .text s => .string s
  | .number n => .nat n

def Span.encode (s : Span) : Json :=
  .object (s.fields.map (fun (key, value) => (key, value.encode)) ++ [("name", .string s.name)])

/-- An event as JSON; the time is the caller's to add. -/
def Event.encode (e : Event) : Json :=
  let span := match e.spans.getLast? with
    | some s => [("span", s.encode)]
    | none => []
  .object ([("level", .string e.level.name), ("fields", .object [("message", .string e.message)]),
    ("target", .string e.target)] ++ span)

/-- One line of a log. -/
inductive LogLine where
  | json (value : Json)
  | text (line : String)

/-- The lines of a text; a carriage return before a line's end belongs to the end. -/
def splitLines (text : String) : List String :=
  (text.splitOn "\n").map fun line =>
    if line.endsWith "\r" then (line.dropEnd 1).toString else line

/-- The lines that an event is printed as. -/
def LogFormat.lines (format : LogFormat) (time : String) (e : Event) : List LogLine :=
  match format with
  | .json => [.json e.encode]
  | .text inColor => (splitLines (e.text time inColor)).map .text

/-- What a process prints of some events, all printed with one time. -/
def LogFilter.print (f : LogFilter) (format : LogFormat) (time : String) (events : List Event) :
    List LogLine :=
  (events.filterMap f.pass?).flatMap (format.lines time)

end CleanupCourier
