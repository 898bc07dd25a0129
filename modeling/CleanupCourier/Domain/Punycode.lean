/-!
Labels with characters beyond ASCII, written with ASCII letters and digits. A label keeps its ASCII
characters in front, and what follows says, in numbers of mixed base, where each further character
goes. Every loop ends because some text or number gets smaller.
-/
namespace CleanupCourier

namespace Punycode

def digit (n : Nat) : Char :=
  if n < 26 then Char.ofNat (97 + n) else Char.ofNat (22 + n)

def value? (c : Char) : Option Nat :=
  let n := c.toNat
  if 97 ≤ n ∧ n ≤ 122 then some (n - 97)
  else if 65 ≤ n ∧ n ≤ 90 then some (n - 65)
  else if 48 ≤ n ∧ n ≤ 57 then some (n - 22)
  else none

/-- The least digit that goes on, at place `k`. -/
def threshold (k bias : Nat) : Nat :=
  if k ≤ bias then 1 else if bias + 26 ≤ k then 26 else k - bias

theorem threshold_pos (k bias : Nat) : 1 ≤ threshold k bias := by
  unfold threshold
  split
  · omega
  · split <;> omega

def settle (delta k : Nat) : Nat :=
  if 455 < delta then settle (delta / 35) (k + 36) else k + 36 * delta / (delta + 38)
termination_by delta
decreasing_by exact Nat.div_lt_self (by omega) (by omega)

/-- The bias after a number has been written or read. -/
def adapt (delta count : Nat) (first : Bool) : Nat :=
  let delta := if first then delta / 700 else delta / 2
  settle (delta + delta / count) 0

/-- The digits of a number. -/
def writeNumber (bias k n : Nat) : List Char :=
  let t := threshold k bias
  if n < t then [digit n]
  else digit (t + (n - t) % (36 - t)) :: writeNumber bias (k + 36) ((n - t) / (36 - t))
termination_by n
decreasing_by
  have hpos := threshold_pos k bias
  have hle : (n - threshold k bias) / (36 - threshold k bias) ≤ n - threshold k bias :=
    Nat.div_le_self _ _
  omega

/-- Reads a number from its digits, `weight` being what the digit at place `k` counts. -/
def readNumber (bias weight k total : Nat) : List Char → Option (Nat × List Char)
  | [] => none
  | c :: rest =>
    match value? c with
    | none => none
    | some d =>
      if d < threshold k bias then some (total + d * weight, rest)
      else
        readNumber bias (weight * (36 - threshold k bias)) (k + 36) (total + d * weight) rest

theorem readNumber_length_lt {bias weight k total n : Nat} {s rest : List Char}
    (h : readNumber bias weight k total s = some (n, rest)) : rest.length < s.length := by
  induction s generalizing weight k total with
  | nil => simp [readNumber] at h
  | cons c s ih =>
    unfold readNumber at h
    split at h
    · contradiction
    · split at h
      · simp only [Option.some.injEq, Prod.mk.injEq] at h
        simp [h.2]
      · exact Nat.lt_succ_of_lt (ih h)

/-- Puts the further characters, which the digits place one by one, among those in `label`. -/
def insertAll (label : List Char) (code index bias : Nat) (first : Bool) (s : List Char) :
    Option (List Char) :=
  if s.isEmpty then some label
  else
    match h : readNumber bias 1 36 0 s with
    | none => none
    | some (delta, rest) =>
      have := readNumber_length_lt h
      let count := label.length + 1
      let place := index + delta
      let code := code + place / count
      let here := place % count
      if code ≤ 0x10FFFF ∧ ¬(0xD800 ≤ code ∧ code < 0xE000) then
        insertAll (label.take here ++ Char.ofNat code :: label.drop here) code (here + 1)
          (adapt delta count first) false rest
      else none
termination_by s.length

/-- The label that a written form stands for, without the mark in front. -/
def decode? (s : List Char) : Option (List Char) :=
  let digits := (s.reverse.takeWhile (· != '-')).reverse
  let label := (s.take (s.length - digits.length)).dropLast
  if label.all (·.toNat < 0x80) then insertAll label 128 0 72 true digits else none

/-- Where the writing of a label stands. -/
structure Progress where
  written : List Char
  delta : Nat
  bias : Nat
  done : Nat

/-- Passes one character of the label while those with the code `code` are being written. -/
def Progress.pass (basic code : Nat) (p : Progress) (c : Char) : Progress :=
  if c.toNat < code then { p with delta := p.delta + 1 }
  else if c.toNat = code then
    { written := p.written ++ writeNumber p.bias 36 p.delta
      delta := 0
      bias := adapt p.delta (p.done + 1) (p.done == basic)
      done := p.done + 1 }
  else p

/-- Writes the characters of each code in turn; `last` is the code that comes next after the one
before. -/
def writeCodes (label : List Char) (basic : Nat) : List Nat → Nat → Progress → Progress
  | [], _, p => p
  | code :: codes, last, p =>
    let p := { p with delta := p.delta + (code - last) * (p.done + 1) }
    let p := label.foldl (Progress.pass basic code) p
    writeCodes label basic codes (code + 1) { p with delta := p.delta + 1 }

/-- The written form of a label, without the mark in front. -/
def encode (label : List Char) : List Char :=
  let basic := label.filter (·.toNat < 0x80)
  let further := (label.filter (0x80 ≤ ·.toNat)).map Char.toNat
  let codes := (further.mergeSort (· ≤ ·)).eraseReps
  let p := writeCodes label basic.length codes 128 ⟨[], 0, 72, basic.length⟩
  basic ++ (if basic.isEmpty then [] else ['-']) ++ p.written

end Punycode

end CleanupCourier
