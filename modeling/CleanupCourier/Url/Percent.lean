import CleanupCourier.Text.Hex
import CleanupCourier.Text.Utf8

/-!
Octets written as a percent sign and two digits of base sixteen. Which characters of a part of an
address are written that way depends on the part.
-/
namespace CleanupCourier

namespace Percent

/-- Controls, and all beyond ASCII. -/
def inControls (c : Char) : Bool :=
  c.toNat < 0x20 || 0x7F ≤ c.toNat

def inFragment (c : Char) : Bool :=
  inControls c || " \"<>`".toList.contains c

def inQuery (c : Char) : Bool :=
  inControls c || " \"#<>".toList.contains c

/-- Of a scheme that the web knows. -/
def inSpecialQuery (c : Char) : Bool :=
  inQuery c || c == '\''

def inPath (c : Char) : Bool :=
  inFragment c || "#?\x7b\x7d".toList.contains c

def inUserInfo (c : Char) : Bool :=
  inPath c || "/:;=@[\\]^|".toList.contains c

def upperDigit (n : Nat) : Char :=
  if n < 10 then Char.ofNat (48 + n) else Char.ofNat (55 + n)

def octet (b : UInt8) : List Char :=
  ['%', upperDigit (b.toNat / 16), upperDigit (b.toNat % 16)]

/-- Writes the characters of a set as octets and leaves the others. -/
def encode (set : Char → Bool) (s : List Char) : List Char :=
  s.flatMap fun c => if set c then (Utf8.encodeChar c).flatMap octet else [c]

/-- The octets of a text, with those written by percent signs taken back. -/
def decode : List Char → Bytes
  | '%' :: a :: b :: rest =>
    match hexValue? a, hexValue? b with
    | some x, some y => UInt8.ofNat (x * 16 + y) :: decode rest
    | _, _ => 37 :: decode (a :: b :: rest)
  | c :: rest => Utf8.encodeChar c ++ decode rest
  | [] => []
termination_by s => s.length

end Percent

end CleanupCourier
