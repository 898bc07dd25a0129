import CleanupCourier.Time.Calendar

/-!
Moments of universal time. A moment inside a leap second keeps the second before it and counts its
nanoseconds on from a whole second, so it needs the last second of a minute.
-/
namespace CleanupCourier

structure Instant where
  /-- Seconds since the start of 1970, leap seconds not counted. -/
  seconds : Int
  nanos : Nat
deriving DecidableEq, Repr

namespace Instant

/-- The first and the last second that have a date, from the year -262143 to the year 262142. -/
def firstSecond : Int := -8334601228800

def lastSecond : Int := 8210266876799

def isInRange (t : Instant) : Bool :=
  firstSecond ≤ t.seconds && t.seconds ≤ lastSecond &&
    (t.nanos < 1000000000 || (t.nanos < 2000000000 && t.seconds % 60 == 59))

def date (t : Instant) : Date :=
  Date.ofDayNumber (t.seconds / 86400)

def secondOfDay (t : Instant) : Nat :=
  (t.seconds % 86400).toNat

/-- The second of the minute, 60 within a leap second. -/
def second (t : Instant) : Nat :=
  t.secondOfDay % 60 + t.nanos / 1000000000

def truncated (t : Instant) : Instant :=
  ⟨t.seconds, t.nanos / 1000000000 * 1000000000⟩

end Instant

end CleanupCourier
