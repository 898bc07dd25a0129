import CleanupCourier.Text.Blank
import CleanupCourier.Time.Instant

/-!
Time stamps `2024-05-06T07:08:09Z` after RFC 3339: written to whole seconds in universal time, with
a sign for years outside 0 to 9999. Reading is wider than writing: short fields, blanks between
them, fractions and offsets are taken.
-/
namespace CleanupCourier

/-- Writes at least `width` digits. -/
def paddedDigits (width n : Nat) : List Char :=
  let digits := Nat.toDigits 10 n
  List.replicate (width - digits.length) '0' ++ digits

def yearChars (year : Int) : List Char :=
  if 0 ≤ year ∧ year ≤ 9999 then paddedDigits 4 year.toNat
  else (if year < 0 then '-' else '+') :: paddedDigits 4 year.natAbs

def Instant.stampChars (t : Instant) : List Char :=
  let d := t.date
  yearChars d.year ++ '-' :: paddedDigits 2 d.month ++ '-' :: paddedDigits 2 d.day ++
    'T' :: paddedDigits 2 (t.secondOfDay / 3600) ++
    ':' :: paddedDigits 2 (t.secondOfDay / 60 % 60) ++
    ':' :: paddedDigits 2 t.second ++ ['Z']

def Instant.stamp (t : Instant) : String :=
  String.ofList t.stampChars

/-- Why a text is no time stamp. -/
inductive StampFault where
  | tooShort
  | invalid
  | outOfRange
  | trailing
deriving DecidableEq, Repr

def StampFault.message : StampFault → String
  | .tooShort => "premature end of input"
  | .invalid => "input contains invalid characters"
  | .outOfRange => "input is out of range"
  | .trailing => "trailing input"

namespace Stamp

def skipSpace (s : List Char) : List Char :=
  s.dropWhile isBlank

/-- One to `width` digits. -/
def number (width : Nat) (s : List Char) : Except StampFault (Nat × List Char) :=
  let digits := (s.takeWhile Char.isDigit).take width
  match digits, s with
  | [], [] => .error .tooShort
  | [], _ => .error .invalid
  | _, _ => .ok (digits.foldl (fun n c => n * 10 + (c.toNat - 48)) 0, s.drop digits.length)

/-- A field of at most two digits between two bounds. -/
def smallField (low high : Nat) (s : List Char) : Except StampFault (Nat × List Char) := do
  let (n, rest) ← number 2 (skipSpace s)
  if low ≤ n ∧ n ≤ high then return (n, rest) else .error .outOfRange

def year (s : List Char) : Except StampFault (Int × List Char) := do
  match skipSpace s with
  | '-' :: rest =>
    let (n, rest) ← number rest.length rest
    return (-(n : Int), rest)
  | '+' :: rest =>
    let (n, rest) ← number rest.length rest
    return ((n : Int), rest)
  | s =>
    let (n, rest) ← number 4 s
    return ((n : Int), rest)

def literal (c : Char) : List Char → Except StampFault (List Char)
  | [] => .error .tooShort
  | d :: rest => if c = d then .ok rest else .error .invalid

/-- A fraction of a second in nanoseconds; digits past the ninth are dropped. -/
def fraction (s : List Char) : Except StampFault (Nat × List Char) := do
  match s with
  | '.' :: rest =>
    let (n, _) ← number 9 rest
    let digits := rest.takeWhile Char.isDigit
    return (n * Nat.pow 10 (9 - min 9 digits.length), rest.drop digits.length)
  | s => return (0, s)

/-- Two digits whose first is at most `tens`. -/
def twoDigits (tens : Nat) : List Char → Except StampFault (Nat × List Char)
  | a :: b :: rest =>
    if a.isDigit ∧ b.isDigit then
      let n := (a.toNat - 48) * 10 + (b.toNat - 48)
      if n / 10 ≤ tens then .ok (n, rest) else .error .outOfRange
    else .error .invalid
  | _ => .error .tooShort

/-- The offset from universal time in seconds. -/
def offset (s : List Char) : Except StampFault (Int × List Char) := do
  let signed (sign : Int) (s : List Char) : Except StampFault (Int × List Char) := do
    let (hours, s) ← twoDigits 9 s
    let (minutes, s) ← twoDigits 5 (s.dropWhile fun c => c == ':' || isBlank c)
    return (sign * ((hours * 3600 + minutes * 60 : Nat) : Int), s)
  match skipSpace s with
  | 'Z' :: rest | 'z' :: rest => return (0, rest)
  | '+' :: rest => signed 1 rest
  | '-' :: rest => signed (-1) rest
  | '−' :: rest => signed (-1) rest
  | [] => .error .tooShort
  | s =>
    if (s.take 3).map Char.toUpper = ['U', 'T', 'C'] then return (0, s.drop 3)
    else .error .invalid

def read (s : List Char) : Except StampFault Instant := do
  let (year, s) ← year s
  let s ← literal '-' (skipSpace s)
  let (month, s) ← smallField 1 12 s
  let s ← literal '-' (skipSpace s)
  let (day, s) ← smallField 1 31 s
  let s ← match s with
    | 'T' :: rest | 't' :: rest | ' ' :: rest => .ok rest
    | [] => .error .tooShort
    | _ => .error .invalid
  let (hour, s) ← smallField 0 23 s
  let s ← literal ':' (skipSpace s)
  let (minute, s) ← smallField 0 59 s
  let s ← literal ':' (skipSpace s)
  let (second, s) ← smallField 0 60 s
  let (nanos, s) ← fraction s
  let (east, s) ← offset s
  let date : Date := ⟨year, month, day⟩
  let onDial : Int := date.dayNumber * 86400 + (hour * 3600 + minute * 60 + min second 59 : Nat)
  let t : Instant := ⟨onDial - east, nanos + second / 60 * 1000000000⟩
  if !(skipSpace s).isEmpty then .error .trailing
  else if date.isValid ∧ east.natAbs < 86400 ∧ Instant.firstSecond ≤ t.seconds ∧
      t.seconds ≤ Instant.lastSecond then .ok t
  else .error .outOfRange

end Stamp

end CleanupCourier
