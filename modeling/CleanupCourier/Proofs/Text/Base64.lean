import Mathlib.Tactic.Common
import CleanupCourier.Text.Base64

/-!
Octets come back from base 64 as they were, whatever they are.
-/
namespace CleanupCourier

namespace Base64

theorem value?_digit : ∀ n < 64, value? (digit n) = some n := by
  decide +kernel

/-- No digit is the sign that pads a group. -/
theorem value?_pad : value? '=' = none := by
  decide

section Groups

variable {a b c d : Char} {x y z w : Nat}

theorem decode?_one (ha : value? a = some x) (hb : value? b = some y) (zero : y % 16 = 0) :
    decode? [a, b, '=', '='] = some [UInt8.ofNat (x * 4 + y / 16)] := by
  simp [decode?, ha, hb, zero]

theorem decode?_two (ha : value? a = some x) (hb : value? b = some y) (hc : value? c = some z)
    (zero : z % 4 = 0) :
    decode? [a, b, c, '='] =
      some [UInt8.ofNat (x * 4 + y / 16), UInt8.ofNat (y % 16 * 16 + z / 4)] := by
  have digit : c ≠ '=' := by
    rintro rfl
    exact nomatch hc.symm.trans value?_pad
  simp [decode?, ha, hb, hc, zero]

theorem decode?_three {rest : List Char} {bytes : Bytes} (ha : value? a = some x)
    (hb : value? b = some y) (hc : value? c = some z) (hd : value? d = some w)
    (more : decode? rest = some bytes) :
    decode? (a :: b :: c :: d :: rest) =
      some (UInt8.ofNat (x * 4 + y / 16) :: UInt8.ofNat (y % 16 * 16 + z / 4) ::
        UInt8.ofNat (z % 4 * 64 + w) :: bytes) := by
  have digit : d ≠ '=' := by
    rintro rfl
    exact nomatch hd.symm.trans value?_pad
  simp [decode?, ha, hb, hc, hd, more, digit]

end Groups

theorem octet_eq (a : UInt8) {n : Nat} (h : n = a.toNat) : UInt8.ofNat n = a := by
  rw [h, UInt8.ofNat_toNat]

theorem decode?_encode (bytes : Bytes) : decode? (encode bytes) = some bytes := by
  induction bytes using encode.induct with
  | case1 => rfl
  | case2 a =>
    have := a.toNat_lt
    rw [encode, decode?_one (value?_digit _ (by omega)) (value?_digit _ (by omega)) (by omega),
      octet_eq a (by omega)]
  | case3 a b =>
    have := a.toNat_lt
    have := b.toNat_lt
    rw [encode, decode?_two (value?_digit _ (by omega)) (value?_digit _ (by omega))
      (value?_digit _ (by omega)) (by omega), octet_eq a (by omega), octet_eq b (by omega)]
  | case4 a b c rest ih =>
    have := a.toNat_lt
    have := b.toNat_lt
    have := c.toNat_lt
    rw [encode, decode?_three (value?_digit _ (by omega)) (value?_digit _ (by omega))
      (value?_digit _ (by omega)) (value?_digit _ (by omega)) ih, octet_eq a (by omega),
      octet_eq b (by omega), octet_eq c (by omega)]

end Base64

end CleanupCourier
