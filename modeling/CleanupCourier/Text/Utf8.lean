/-!
Octets and the UTF-8 form of text. `Utf8.encode` writes characters as octets, `Utf8.decode?` reads
octets that are well formed, and `Utf8.lossy` reads any octets: each longest ill-formed start of a
character becomes one replacement character. Octets are lists so that proofs can follow them.
-/
namespace CleanupCourier

abbrev Bytes := List UInt8

namespace Utf8

def encodeChar (c : Char) : Bytes :=
  let n := c.toNat
  if n < 0x80 then [UInt8.ofNat n]
  else if n < 0x800 then [UInt8.ofNat (0xC0 + n / 64), UInt8.ofNat (0x80 + n % 64)]
  else if n < 0x10000 then
    [UInt8.ofNat (0xE0 + n / 4096), UInt8.ofNat (0x80 + n / 64 % 64), UInt8.ofNat (0x80 + n % 64)]
  else
    [UInt8.ofNat (0xF0 + n / 262144), UInt8.ofNat (0x80 + n / 4096 % 64),
      UInt8.ofNat (0x80 + n / 64 % 64), UInt8.ofNat (0x80 + n % 64)]

def encode (s : List Char) : Bytes :=
  s.flatMap encodeChar

/-- What a leading octet announces: its own share of the code point, the octets that may come
second, and how many octets follow in all. -/
structure Lead where
  share : Nat
  low : Nat
  high : Nat
  following : Nat
deriving DecidableEq, Repr

def lead? (b : UInt8) : Option Lead :=
  let n := b.toNat
  if n < 0x80 then some ⟨n, 0, 0, 0⟩
  else if n < 0xC2 then none
  else if n < 0xE0 then some ⟨n - 0xC0, 0x80, 0xBF, 1⟩
  else if n = 0xE0 then some ⟨0, 0xA0, 0xBF, 2⟩
  else if n = 0xED then some ⟨0xD, 0x80, 0x9F, 2⟩
  else if n < 0xF0 then some ⟨n - 0xE0, 0x80, 0xBF, 2⟩
  else if n = 0xF0 then some ⟨0, 0x90, 0xBF, 3⟩
  else if n < 0xF4 then some ⟨n - 0xF0, 0x80, 0xBF, 3⟩
  else if n = 0xF4 then some ⟨4, 0x80, 0x8F, 3⟩
  else none

/-- Reads the octets that a leading octet still owes; `none` where one is missing or out of its
range, with the octets from there on. Only the first of them has a range of its own. -/
def continuation (share low high : Nat) : Nat → Bytes → Option Char × Bytes
  | 0, rest => (some (Char.ofNat share), rest)
  | _ + 1, [] => (none, [])
  | owed + 1, b :: rest =>
    if low ≤ b.toNat ∧ b.toNat ≤ high then
      continuation (share * 64 + b.toNat % 64) 0x80 0xBF owed rest
    else (none, b :: rest)

theorem continuation_length_le (share low high owed : Nat) (bytes : Bytes) :
    (continuation share low high owed bytes).2.length ≤ bytes.length := by
  induction owed generalizing share low high bytes with
  | zero => simp [continuation]
  | succ owed ih =>
    cases bytes with
    | nil => simp [continuation]
    | cons b rest =>
      unfold continuation
      split
      · exact Nat.le_succ_of_le (ih _ _ _ _)
      · exact Nat.le_refl _

/-- The first character of `b :: rest`, `none` for an ill-formed start, and the octets after it. -/
def next (b : UInt8) (rest : Bytes) : Option Char × Bytes :=
  match lead? b with
  | none => (none, rest)
  | some l => continuation l.share l.low l.high l.following rest

theorem next_length_le (b : UInt8) (rest : Bytes) : (next b rest).2.length ≤ rest.length := by
  unfold next
  split
  · exact Nat.le_refl _
  · exact continuation_length_le _ _ _ _ _

/-- The characters of any octets, `none` standing for each ill-formed stretch. -/
def characters : Bytes → List (Option Char)
  | [] => []
  | b :: rest => (next b rest).1 :: characters (next b rest).2
termination_by bytes => bytes.length
decreasing_by exact Nat.lt_succ_of_le (next_length_le b rest)

def lossy (bytes : Bytes) : List Char :=
  (characters bytes).map (·.getD '\uFFFD')

def decode? (bytes : Bytes) : Option (List Char) :=
  (characters bytes).mapM id

end Utf8

/-- The octets of a text. -/
def utf8 (s : String) : Bytes :=
  Utf8.encode s.toList

/-- The text that octets stand for, ill-formed stretches replaced. -/
def textOf (bytes : Bytes) : String :=
  String.ofList (Utf8.lossy bytes)

end CleanupCourier
