import CleanupCourier.Json.Basic
import CleanupCourier.Text.Decimal
import CleanupCourier.Text.Shortest

/-!
What the text of a JSON number stands for: a whole number where it fits in 64 bits, else the nearest
double. Minus zero is a double, since no whole number is it.
-/
namespace CleanupCourier

/-- The value of a number. A double is kept as the text of its shortest digits, in the two forms
that messages and JSON use. -/
inductive NumberValue where
  | natural (n : Nat)
  | negative (n : Nat)
  | double (positional compact : String)
deriving DecidableEq, Repr

namespace NumberValue

/-- The digits before and after the point, and the exponent, of a number without its sign. -/
def parts (s : List Char) : List Char × List Char × Int :=
  let (whole, s) := s.span Char.isDigit
  let (fraction, s) := match s with
    | '.' :: rest => rest.span Char.isDigit
    | s => ([], s)
  let digitsOf (ds : List Char) : Int := (ds.foldl (fun n c => n * 10 + (c.toNat - 48)) 0 : Nat)
  let exponent : Int := match s with
    | _ :: '-' :: ds => -digitsOf ds
    | _ :: '+' :: ds => digitsOf ds
    | _ :: ds => digitsOf ds
    | [] => 0
  (whole, fraction, exponent)

/-- The double nearest to a number without a sign; `none` past the largest one. -/
def nearestDouble? (whole fraction : List Char) (exponent : Int) : Option Float :=
  let digits := (whole ++ fraction).foldl (fun n c => n * 10 + (c.toNat - 48)) 0
  let scale := exponent - fraction.length
  let size : Int := (Nat.toDigits 10 digits).length + scale
  if digits = 0 then some 0
  else if 400 < size then none
  else if size < -400 then some 0
  else
    let f := Float.ofScientific digits (decide (scale < 0)) scale.natAbs
    if f.isInf then none else some f

def ofDouble (negative : Bool) (f : Float) : NumberValue :=
  let sign := if negative then ['-'] else []
  if f == 0 then
    let text := String.ofList (sign ++ ['0', '.', '0'])
    .double text text
  else
    let d := (BinaryNumber.ofFloat f).shortest
    .double (String.ofList (sign ++ d.positional)) (String.ofList (sign ++ d.compact))

/-- The value of a number's text; `none` where it is larger than every double. -/
def ofLexeme? (lexeme : String) : Option NumberValue :=
  let s := lexeme.toList
  let negative := s.head? == some '-'
  let unsigned := if negative then s.tail else s
  let (whole, fraction, exponent) := parts unsigned
  let n := whole.foldl (fun n c => n * 10 + (c.toNat - 48)) 0
  let isWhole := unsigned.all Char.isDigit
  if isWhole && !negative && n < wordSize 64 then some (.natural n)
  else if isWhole && negative && 0 < n && n ≤ wordSize 63 then some (.negative n)
  else (nearestDouble? whole fraction exponent).map (ofDouble negative)

end NumberValue

end CleanupCourier
