/-!
Whole numbers in decimal, with the reasons why a text is none.
-/
namespace CleanupCourier

/-- Why a text is not a number below the bound. -/
inductive NumberFault where
  | empty
  | badDigit
  | tooLarge
deriving DecidableEq, Repr

def NumberFault.message : NumberFault → String
  | .empty => "cannot parse integer from empty string"
  | .badDigit => "invalid digit found in string"
  | .tooLarge => "number too large to fit in target type"

def digitValue? (c : Char) : Option Nat :=
  if '0' ≤ c ∧ c ≤ '9' then some (c.toNat - '0'.toNat) else none

/-- How many numbers fit in a word of some bits. -/
def wordSize (bits : Nat) : Nat :=
  Nat.pow 2 bits

/-- Reads digits from the left; the first thing that is wrong decides, be it a bad digit or a value
past the bound. -/
def boundedDigits (bound : Nat) : Nat → List Char → Except NumberFault Nat
  | value, [] => .ok value
  | value, c :: rest =>
    match digitValue? c with
    | none => .error .badDigit
    | some d =>
      if value * 10 + d ≤ bound then boundedDigits bound (value * 10 + d) rest
      else .error .tooLarge

/-- Reads a number from zero to `bound`: an optional plus sign, then digits. -/
def boundedNumber (bound : Nat) (s : List Char) : Except NumberFault Nat :=
  match s with
  | [] => .error .empty
  | ['+'] => .error .badDigit
  | ['-'] => .error .badDigit
  | '+' :: rest => boundedDigits bound 0 rest
  | rest => boundedDigits bound 0 rest

end CleanupCourier
