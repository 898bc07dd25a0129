import Mathlib.Tactic.Common
import CleanupCourier.Text.Utf8

/-!
Octets of a text are well formed, and reading them gives the text back. Reading any octets leaves a
text at their start as it is.
-/
namespace CleanupCourier

namespace Utf8

theorem toNat_octet {n : Nat} (h : n < 256) : (UInt8.ofNat n).toNat = n :=
  UInt8.toNat_ofNat_of_lt' h

theorem toNat_valid (c : Char) : c.toNat < 0xD800 ∨ 0xDFFF < c.toNat ∧ c.toNat < 0x110000 :=
  c.valid

/-- An octet that continues a character gives its six bits. -/
theorem continuation_octet {share low high owed n : Nat} (small : n < 64) (ge : low ≤ 0x80 + n)
    (le : 0x80 + n ≤ high) (rest : Bytes) :
    continuation share low high (owed + 1) (UInt8.ofNat (0x80 + n) :: rest) =
      continuation (share * 64 + n) 0x80 0xBF owed rest := by
  have value : (UInt8.ofNat (0x80 + n)).toNat = 0x80 + n := toNat_octet (by omega)
  have bits : (0x80 + n) % 64 = n := by omega
  rw [continuation, value, bits, if_pos ⟨ge, le⟩]

theorem continuation_end {c : Char} {share low high : Nat} (h : share = c.toNat) (rest : Bytes) :
    continuation share low high 0 rest = (some c, rest) := by
  rw [continuation, h, Char.ofNat_toNat]

theorem lead?_two {n : Nat} (low : 2 ≤ n) (high : n < 32) :
    lead? (UInt8.ofNat (0xC0 + n)) = some ⟨n, 0x80, 0xBF, 1⟩ := by
  have value : (UInt8.ofNat (0xC0 + n)).toNat = 0xC0 + n := toNat_octet (by omega)
  have share : 0xC0 + n - 0xC0 = n := by omega
  simp only [lead?, value, share]
  rw [if_neg (by omega), if_neg (by omega), if_pos (by omega)]

/-- The second octet of three is kept from short forms and from surrogates. -/
theorem lead?_three {n : Nat} (h : n < 16) :
    lead? (UInt8.ofNat (0xE0 + n)) =
      some ⟨n, if n = 0 then 0xA0 else 0x80, if n = 0xD then 0x9F else 0xBF, 2⟩ := by
  have value : (UInt8.ofNat (0xE0 + n)).toNat = 0xE0 + n := toNat_octet (by omega)
  have share : 0xE0 + n - 0xE0 = n := by omega
  simp only [lead?, value, share]
  rw [if_neg (by omega), if_neg (by omega), if_neg (by omega)]
  by_cases zero : n = 0
  · subst n
    rfl
  by_cases surrogate : n = 0xD
  · subst n
    rfl
  rw [if_neg (by omega), if_neg (by omega), if_pos (by omega), if_neg zero, if_neg surrogate]

/-- The second octet of four is kept from short forms and from numbers past the last character. -/
theorem lead?_four {n : Nat} (h : n < 5) :
    lead? (UInt8.ofNat (0xF0 + n)) =
      some ⟨n, if n = 0 then 0x90 else 0x80, if n = 4 then 0x8F else 0xBF, 3⟩ := by
  have all : ∀ n < 5, lead? (UInt8.ofNat (0xF0 + n)) =
      some ⟨n, if n = 0 then 0x90 else 0x80, if n = 4 then 0x8F else 0xBF, 3⟩ := by decide
  exact all n h

theorem characters_cons {b : UInt8} {bytes rest : Bytes} {c : Char} {l : Lead}
    (lead : lead? b = some l)
    (read : continuation l.share l.low l.high l.following bytes = (some c, rest)) :
    characters (b :: bytes) = some c :: characters rest := by
  have first : next b bytes = (some c, rest) := by rw [next, lead]; exact read
  rw [characters, first]

/-- A character is read back from its octets. -/
theorem characters_encodeChar (c : Char) (rest : Bytes) :
    characters (encodeChar c ++ rest) = some c :: characters rest := by
  have valid := toNat_valid c
  simp only [encodeChar]
  split_ifs with one two three
  · have value : (UInt8.ofNat c.toNat).toNat = c.toNat := toNat_octet (by omega)
    have lead : lead? (UInt8.ofNat c.toNat) = some ⟨c.toNat, 0, 0, 0⟩ := by
      rw [lead?, value, if_pos one]
    apply characters_cons lead
    simp [continuation]
  · apply characters_cons (lead?_two (n := c.toNat / 64) (by omega) (by omega))
    change continuation (c.toNat / 64) 0x80 0xBF 1 (UInt8.ofNat (0x80 + c.toNat % 64) :: rest) = _
    rw [continuation_octet (by omega) (by omega) (by omega)]
    exact continuation_end (by omega) rest
  · apply characters_cons (lead?_three (n := c.toNat / 4096) (by omega))
    change continuation (c.toNat / 4096) (if c.toNat / 4096 = 0 then 0xA0 else 0x80)
      (if c.toNat / 4096 = 0xD then 0x9F else 0xBF) 2
      (UInt8.ofNat (0x80 + c.toNat / 64 % 64) :: UInt8.ofNat (0x80 + c.toNat % 64) :: rest) = _
    rw [continuation_octet (by omega) (by split <;> omega) (by split <;> omega),
      continuation_octet (by omega) (by omega) (by omega)]
    exact continuation_end (by omega) rest
  · apply characters_cons (lead?_four (n := c.toNat / 262144) (by omega))
    change continuation (c.toNat / 262144) (if c.toNat / 262144 = 0 then 0x90 else 0x80)
      (if c.toNat / 262144 = 4 then 0x8F else 0xBF) 3
      (UInt8.ofNat (0x80 + c.toNat / 4096 % 64) :: UInt8.ofNat (0x80 + c.toNat / 64 % 64) ::
        UInt8.ofNat (0x80 + c.toNat % 64) :: rest) = _
    rw [continuation_octet (by omega) (by split <;> omega) (by split <;> omega),
      continuation_octet (by omega) (by omega) (by omega),
      continuation_octet (by omega) (by omega) (by omega)]
    exact continuation_end (by omega) rest

theorem characters_encode (s : List Char) : characters (encode s) = s.map some := by
  induction s with
  | nil => rw [encode, List.flatMap_nil, characters, List.map_nil]
  | cons c s ih =>
    rw [encode, List.flatMap_cons, characters_encodeChar, List.map_cons]
    exact congrArg _ ih

theorem decode?_encode (s : List Char) : decode? (encode s) = some s := by
  rw [decode?, characters_encode]
  induction s with
  | nil => rfl
  | cons c s ih => simp [ih]

/-- Octets of a text are taken as this text, whatever comes after them. -/
theorem lossy_encode_append (s : List Char) (bytes : Bytes) :
    lossy (encode s ++ bytes) = s ++ lossy bytes := by
  induction s with
  | nil => rfl
  | cons c s ih =>
    rw [encode, List.flatMap_cons, List.append_assoc, lossy, characters_encodeChar, List.map_cons]
    exact congrArg _ ih

end Utf8

theorem textOf_utf8_append (s : String) (bytes : Bytes) :
    textOf (utf8 s ++ bytes) = s ++ textOf bytes := by
  rw [textOf, utf8, Utf8.lossy_encode_append, String.ofList_append, String.ofList_toList]
  rfl

theorem textOf_utf8 (s : String) : textOf (utf8 s) = s := by
  have nothing : textOf [] = "" := by
    rw [textOf, Utf8.lossy, Utf8.characters]
    rfl
  have whole := textOf_utf8_append s []
  rwa [List.append_nil, nothing, String.append_empty] at whole

/-- The text that octets hold, if they are well formed. -/
theorem decode?_utf8 (s : String) : (Utf8.decode? (utf8 s)).map String.ofList = some s := by
  simp [utf8, Utf8.decode?_encode]

end CleanupCourier
