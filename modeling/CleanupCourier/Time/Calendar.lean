/-!
The Gregorian calendar, counted in both directions without end. Years are taken to begin in March,
which puts the leap day last: then centuries, groups of four years and years each are a quotient by
their common length, the last one of a cycle being a day longer.
-/
namespace CleanupCourier

structure Date where
  year : Int
  month : Nat
  day : Nat
deriving DecidableEq, Repr

namespace Date

def isLeapYear (year : Int) : Bool :=
  year % 4 == 0 && (year % 100 != 0 || year % 400 == 0)

def daysInMonth (year : Int) (month : Nat) : Nat :=
  if month = 2 then (if isLeapYear year then 29 else 28)
  else if month = 4 ∨ month = 6 ∨ month = 9 ∨ month = 11 then 30
  else 31

def isValid (d : Date) : Bool :=
  1 ≤ d.month && d.month ≤ 12 && 1 ≤ d.day && d.day ≤ daysInMonth d.year d.month

/-- Days from 1 March of the year zero to 1 January 1970. -/
def epochDay : Int := 719468

/-- The day with a given number, 1 January 1970 being day zero. -/
def ofDayNumber (n : Int) : Date :=
  let days := n + epochDay
  let cycle := days / 146097
  let r := (days % 146097).toNat
  let century := min (r / 36524) 3
  let r := r - century * 36524
  let group := r / 1461
  let r := r - group * 1461
  let one := min (r / 365) 3
  let dayOfYear := r - one * 365
  let marchYear := cycle * 400 + (century * 100 + group * 4 + one : Nat)
  let marchMonth := (5 * dayOfYear + 2) / 153
  let day := dayOfYear - (153 * marchMonth + 2) / 5 + 1
  if marchMonth < 10 then ⟨marchYear, marchMonth + 3, day⟩
  else ⟨marchYear + 1, marchMonth - 9, day⟩

def dayNumber (d : Date) : Int :=
  let marchYear := if d.month ≤ 2 then d.year - 1 else d.year
  let marchMonth := (d.month + 9) % 12
  365 * marchYear + marchYear / 4 - marchYear / 100 + marchYear / 400 +
    ((153 * marchMonth + 2) / 5 + d.day : Nat) - 1 - epochDay

end Date

end CleanupCourier
