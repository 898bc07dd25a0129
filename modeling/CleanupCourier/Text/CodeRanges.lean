/-!
Sets of code points, kept as the ascending list of the points where membership changes: the first
is in, the second is out again, and so on. Written down, a set is the text of the steps from each
such point to the next one.
-/
namespace CleanupCourier

/-- How many of the ascending `bounds` from `lo` up to `hi` come before or at `x`, plus `lo`. -/
def rankBetween (bounds : Array Nat) (x lo hi : Nat) : Nat :=
  if lo < hi then
    let mid := (lo + hi) / 2
    if bounds.getD mid 0 ≤ x then rankBetween bounds x (mid + 1) hi
    else rankBetween bounds x lo mid
  else lo
termination_by hi - lo

/-- How many of the ascending `bounds` come before or at `x`. -/
def rank (bounds : Array Nat) (x : Nat) : Nat :=
  rankBetween bounds x 0 bounds.size

structure CodeRanges where
  bounds : Array Nat

namespace CodeRanges

def contains (s : CodeRanges) (n : Nat) : Bool :=
  rank s.bounds n % 2 == 1

def has (s : CodeRanges) (c : Char) : Bool :=
  s.contains c.toNat

end CodeRanges

/-- The numbers that a text of decimal digits and blanks holds, in order. -/
def blankSeparatedNumbers (text : String) : List Nat :=
  let step : Option Nat × List Nat → Char → Option Nat × List Nat := fun (current, done) c =>
    if c.isDigit then (some (current.getD 0 * 10 + (c.toNat - '0'.toNat)), done)
    else match current with
      | some n => (none, n :: done)
      | none => (none, done)
  match text.toList.foldl step (none, []) with
  | (some n, done) => (n :: done).reverse
  | (none, done) => done.reverse

/-- The running sums of a list of steps. -/
def runningSums (start : Nat) : List Nat → List Nat
  | [] => []
  | d :: rest => (start + d) :: runningSums (start + d) rest

/-- Reads a set from the text of its steps. -/
def CodeRanges.ofSteps (text : String) : CodeRanges :=
  ⟨(runningSums 0 (blankSeparatedNumbers text)).toArray⟩

end CleanupCourier
