/-!
The fewest decimal digits that name a binary floating-point number. A finite positive number is
`m * 2 ^ q`; the reals that round to it form an interval, closed when `m` is even. For one digit,
two digits and so on the two decimals next to the number are tried, and the first count with one
inside the interval wins, the nearer one of two.
-/
namespace CleanupCourier

/-- A finite positive number `mantissa * 2 ^ exponent` of a binary format; `lowest` tells that the
gap below it is only half the gap above it. -/
structure BinaryNumber where
  mantissa : Nat
  exponent : Int
  halfGapBelow : Bool

/-- `digits` after a decimal point, times ten to the `scale`. -/
structure DecimalDigits where
  digits : List Char
  scale : Int
deriving DecidableEq, Repr

namespace Shortest

/-- The number and the ends of its interval as quarters of the last place, over one denominator. -/
structure Interval where
  low : Nat
  value : Nat
  high : Nat
  denominator : Nat
  closed : Bool

def interval (b : BinaryNumber) : Interval :=
  let up := (b.exponent - 2).toNat
  let down := (2 - b.exponent).toNat
  let m := 4 * b.mantissa
  { low := (m - if b.halfGapBelow then 1 else 2) * Nat.pow 2 up
    value := m * Nat.pow 2 up
    high := (m + 2) * Nat.pow 2 up
    denominator := Nat.pow 2 down
    closed := b.mantissa % 2 == 0 }

def Interval.holds (i : Interval) (n : Nat) : Bool :=
  if i.closed then i.low ≤ n && n ≤ i.high else i.low < n && n < i.high

/-- The scale `k` with `10 ^ (k - 1) ≤ value < 10 ^ k`, searched downwards from `k`. -/
def scaleFrom (value denominator : Nat) : Nat → Int → Int
  | 0, k => k
  | fuel + 1, k =>
    let below := k - 1
    let fits := denominator * Nat.pow 10 below.toNat ≤ value * Nat.pow 10 (-below).toNat
    if fits then k else scaleFrom value denominator fuel (k - 1)

/-- The decimal with `count` digits nearest to the number, if it lies in the interval. -/
def atCount? (i : Interval) (scale : Int) (count : Nat) : Option Nat :=
  let shift := (count : Int) - scale
  let grow := Nat.pow 10 shift.toNat
  let unit := i.denominator * Nat.pow 10 (-shift).toNat
  let scaled : Interval :=
    { i with low := i.low * grow, value := i.value * grow, high := i.high * grow }
  let n := scaled.value / unit
  let below := scaled.value - n * unit
  let above := (n + 1) * unit - scaled.value
  let candidates :=
    if below < above ∨ (below = above ∧ n % 2 = 0) then [n, n + 1] else [n + 1, n]
  candidates.find? fun c => scaled.holds (c * unit)

def searchFrom (i : Interval) (scale : Int) : Nat → Nat → Nat × Nat
  | 0, count => (i.value / i.denominator, count)
  | fuel + 1, count =>
    match atCount? i scale count with
    | some n => (n, count)
    | none => searchFrom i scale fuel (count + 1)

end Shortest

/-- The digits of `b`, none of them a zero at either end. -/
def BinaryNumber.shortest (b : BinaryNumber) : DecimalDigits :=
  let i := Shortest.interval b
  let scale : Int := Shortest.scaleFrom i.value i.denominator 700 320
  let (n, count) := Shortest.searchFrom i scale 17 1
  let all := (Nat.toDigits 10 n)
  { digits := (all.reverse.dropWhile (· == '0')).reverse
    scale := scale + ((all.length : Int) - count) }

/-- The parts of a finite positive double. -/
def BinaryNumber.ofFloat (f : Float) : BinaryNumber :=
  let bits := f.toBits.toNat
  let fraction := bits % Nat.pow 2 52
  let exponent : Nat := bits / Nat.pow 2 52 % 2048
  if exponent = 0 then ⟨fraction, -1074, false⟩
  else ⟨fraction + Nat.pow 2 52, (exponent : Int) - 1075, fraction == 0 && exponent != 1⟩

namespace DecimalDigits

/-- All places written out, with at least one digit on both sides of the point. -/
def positional (d : DecimalDigits) : List Char :=
  let count : Int := d.digits.length
  if d.scale ≤ 0 then ['0', '.'] ++ List.replicate (-d.scale).toNat '0' ++ d.digits
  else if count ≤ d.scale then
    d.digits ++ List.replicate (d.scale - count).toNat '0' ++ ['.', '0']
  else d.digits.take d.scale.toNat ++ '.' :: d.digits.drop d.scale.toNat

/-- Positional from a hundred-thousandth up to sixteen whole digits, else with an exponent. -/
def compact (d : DecimalDigits) : List Char :=
  if -5 < d.scale ∧ d.scale ≤ 16 then d.positional
  else
    let power := (toString (d.scale - 1)).toList
    match d.digits with
    | [] => ['0']
    | [a] => a :: 'e' :: power
    | a :: rest => a :: '.' :: (rest ++ 'e' :: power)

end DecimalDigits

end CleanupCourier
