import CleanupCourier.Domain.Ascii
import CleanupCourier.Text.Decimal
import CleanupCourier.Url.Percent

/-!
The host of an address: a name, or the number of a machine in four or six parts. A name whose last
label is a number is read as a number, in any of the bases eight, ten and sixteen.
-/
namespace CleanupCourier

inductive Host where
  | name (text : String)
  | ipv4 (number : Nat)
  | ipv6 (pieces : List Nat)
deriving DecidableEq, Repr

namespace Host

/-- A number with its base in front; `none` for no number, `some none` for one past 32 bits. -/
def number? (s : List Char) : Option (Option Nat) :=
  let (base, digits) : Nat × List Char := match s with
    | '0' :: 'x' :: rest | '0' :: 'X' :: rest => (16, rest)
    | '0' :: c :: rest => (8, c :: rest)
    | s => (10, s)
  if s.isEmpty then none
  else do
    let values ← digits.mapM hexValue?
    if values.all (· < base) then
      let n := values.foldl (fun n d => n * base + d) 0
      return if n < wordSize 32 then some n else none
    else none

/-- The labels of a name, an empty one at its end left out. -/
def labels (name : List Char) : List (List Char) :=
  let parts := name.splitOn '.'
  if parts.getLast? = some [] ∧ 1 < parts.length then parts.dropLast else parts

def endsInNumber (name : List Char) : Bool :=
  match (labels name).getLast? with
  | none => false
  | some last => (!last.isEmpty && last.all Char.isDigit) || (number? last).isSome

/-- The number that four parts or fewer stand for; the last part fills what the others leave. -/
def ipv4? (name : List Char) : Option Host := do
  let numbers ← (labels name).mapM fun part => (number? part).join
  let last ← numbers.getLast?
  let front := numbers.dropLast
  if 3 < front.length ∨ front.any (255 < ·) ∨ Nat.pow 256 (4 - front.length) ≤ last then none
  else
    let high := front.zipIdx.foldl (fun sum (n, i) => sum + n * Nat.pow 256 (3 - i)) 0
    return .ipv4 (high + last)

/-- One to four digits of base sixteen. -/
def piece (s : List Char) : Option (Nat × List Char) :=
  let digits := (s.takeWhile fun c => (hexValue? c).isSome).take 4
  if digits.isEmpty then none
  else some (digits.foldl (fun n c => n * 16 + (hexValue? c).getD 0) 0, s.drop digits.length)

/-- Four decimal numbers below 256 without leading zeros, as two pieces. -/
def dottedPieces? (s : List Char) : Option (List Nat) := do
  let parts := s.splitOn '.'
  if parts.length != 4 then none
  else
    let numbers ← parts.mapM fun part =>
      if part.isEmpty ∨ !part.all Char.isDigit ∨ (1 < part.length ∧ part.head? = some '0') ∨
        3 < part.length then none
      else
        let n : Nat := part.foldl (fun n c => n * 10 + (c.toNat - 48)) 0
        if n < 256 then some n else none
    match numbers with
    | [a, b, c, d] => some [a * 256 + b, c * 256 + d]
    | _ => none

/-- Pieces with a colon between two of them; the last two may be written as four numbers. -/
def pieces? (s : List Char) : Option (List Nat) :=
  if s.isEmpty then some []
  else do
    let parts := s.splitOn ':'
    let last ← parts.getLast?
    let front ← parts.dropLast.mapM fun part =>
      match piece part with
      | some (n, []) => some n
      | _ => none
    let ending ←
      if last.contains '.' then dottedPieces? last
      else match piece last with
        | some (n, []) => some [n]
        | _ => none
    return front ++ ending

/-- The first place of two colons in a row, as the texts before and after it. -/
def splitGap? : List Char → Option (List Char × List Char)
  | ':' :: ':' :: rest => some ([], rest)
  | c :: rest => (splitGap? rest).map fun (before, after) => (c :: before, after)
  | [] => none

/-- Eight pieces; two colons in a row stand for one zero or more, once. -/
def ipv6? (s : List Char) : Option Host :=
  match splitGap? s with
  | none => do
    let pieces ← pieces? s
    if pieces.length = 8 then some (.ipv6 pieces) else none
  | some (before, after) => do
    if before.contains '.' then none
    else
      let front ← pieces? before
      let ending ← pieces? after
      if front.length + ending.length < 8 then
        some (.ipv6 (front ++ List.replicate (8 - front.length - ending.length) 0 ++ ending))
      else none

/-- The host of a scheme that the web knows. -/
def ofSpecial? (s : List Char) : Option Host :=
  if s.head? = some '[' then
    if s.getLast? = some ']' ∧ 1 < s.length then ipv6? (s.drop 1).dropLast else none
  else do
    let decoded ← Utf8.decode? (Percent.decode s)
    let ascii ← Domain.ascii? decoded
    if ascii.isEmpty then none
    else if endsInNumber ascii then ipv4? ascii
    else some (.name (String.ofList ascii))

/-- Characters that no host has, whatever the scheme. -/
def isForbidden (c : Char) : Bool :=
  "\x00\t\n\r #/:<>?@[\\]^|".toList.contains c

/-- The host of any other scheme, which is kept as it is written. -/
def ofOther? (s : List Char) : Option Host :=
  if s.head? = some '[' then
    if s.getLast? = some ']' ∧ 1 < s.length then ipv6? (s.drop 1).dropLast else none
  else if s.any isForbidden then none
  else some (.name (String.ofList (Percent.encode Percent.inControls s)))

/-- The start and the length of the longest run of zeros, the first of several. -/
def longestZeros (pieces : List Nat) : Nat × Nat :=
  let step : (Nat × Nat) × (Nat × Nat) → Nat × Nat → (Nat × Nat) × (Nat × Nat) :=
    fun (best, current) (n, i) =>
      if n = 0 then
        let current := if current.2 = 0 then (i, 1) else (current.1, current.2 + 1)
        (if best.2 < current.2 then current else best, current)
      else (best, (0, 0))
  (pieces.zipIdx.foldl step ((0, 0), (0, 0))).1

def colons (pieces : List Nat) : List Char :=
  [':'].intercalate (pieces.map hexDigits)

def render : Host → String
  | .name text => text
  | .ipv4 n =>
    ".".intercalate [toString (n / 16777216), toString (n / 65536 % 256), toString (n / 256 % 256),
      toString (n % 256)]
  | .ipv6 pieces =>
    let (start, length) := longestZeros pieces
    let inner :=
      if length < 2 then colons pieces
      else colons (pieces.take start) ++ [':', ':'] ++ colons (pieces.drop (start + length))
    String.ofList ('[' :: inner ++ [']'])

end Host

end CleanupCourier
