import Mathlib.Data.List.Basic
import CleanupCourier.Text.Decimal

/-!
The digits that a number is written with have the value of the number. Reading a number up to a
bound succeeds on these digits and on no other text, but for zeros and a plus sign in front.
-/
namespace CleanupCourier

/-- The value of digits, the first one counting most. -/
def digitsValue (digits : List Char) : Nat :=
  digits.foldl (fun n c => n * 10 + (c.toNat - 48)) 0

theorem digitsValue_eq (digits : List Char) :
    digitsValue digits = Nat.ofDigitChars 10 digits 0 := by
  rw [digitsValue, Nat.ofDigitChars_eq_foldl]
  congr 1
  funext n c
  rw [Nat.mul_comm]
  rfl

theorem digitsValue_toDigits (n : Nat) : digitsValue (Nat.toDigits 10 n) = n := by
  rw [digitsValue_eq, Nat.ofDigitChars_ten_toDigits]

/-- Zeros in front do not count. -/
theorem digitsValue_pad (k n : Nat) :
    digitsValue (List.replicate k '0' ++ Nat.toDigits 10 n) = n := by
  rw [digitsValue_eq, Nat.ofDigitChars_append, Nat.ofDigitChars_replicate_zero, Nat.mul_zero,
    Nat.ofDigitChars_ten_toDigits]

theorem isDigit_toDigits {n : Nat} {c : Char} (h : c ∈ Nat.toDigits 10 n) : c.isDigit :=
  Nat.isDigit_of_mem_toDigits (by decide) (by decide) h

/-- The value that digits come to when some were read before them. -/
def continuedValue (value : Nat) (digits : List Char) : Nat :=
  digits.foldl (fun n c => n * 10 + (c.toNat - 48)) value

/-- By induction on the digits: each of them makes the value no smaller. -/
theorem le_continuedValue (value : Nat) (digits : List Char) :
    value ≤ continuedValue value digits := by
  induction digits generalizing value with
  | nil => exact Nat.le_refl _
  | cons c digits ih =>
    have step : value ≤ value * 10 + (c.toNat - 48) := by omega
    exact Nat.le_trans step (ih _)

theorem digitValue?_of_isDigit {c : Char} (h : c.isDigit) :
    digitValue? c = some (c.toNat - 48) := by
  have code := Char.isDigit_iff_toNat.mp h
  exact if_pos ⟨code.1, code.2⟩

theorem digitValue?_of_not_isDigit {c : Char} (h : ¬ c.isDigit) : digitValue? c = none :=
  if_neg fun code => h (Char.isDigit_iff_toNat.mpr ⟨code.1, code.2⟩)

/-- By induction on the text. A value past the bound stays past it, whatever digits follow, so it
may be refused at once. -/
theorem boundedDigits_eq_ok_iff {bound value n : Nat} {s : List Char} (h : value ≤ bound) :
    boundedDigits bound value s = .ok n ↔
      (∀ c ∈ s, c.isDigit) ∧ continuedValue value s = n ∧ n ≤ bound := by
  induction s generalizing value with
  | nil =>
    have self : value = n ↔ value = n ∧ n ≤ bound :=
      ⟨fun same => ⟨same, same ▸ h⟩, And.left⟩
    simpa [boundedDigits, continuedValue] using self
  | cons c s ih =>
    rw [boundedDigits, List.forall_mem_cons]
    by_cases digit : c.isDigit
    · rw [digitValue?_of_isDigit digit]
      dsimp only
      have value' : continuedValue value (c :: s) =
        continuedValue (value * 10 + (c.toNat - 48)) s := rfl
      split
      · rename_i fits
        rw [ih fits, value', and_iff_right digit]
      · rename_i large
        refine iff_of_false nofun fun ⟨_, eq, le⟩ => large ?_
        exact Nat.le_trans (eq ▸ value' ▸ le_continuedValue _ _) le
    · rw [digitValue?_of_not_isDigit digit]
      exact iff_of_false nofun fun ⟨⟨yes, _⟩, _⟩ => digit yes

/-- Holds of a text that writes a number: an optional plus sign, then digits, the first of which may
be zeros. -/
def Writes (s : List Char) (n : Nat) : Prop :=
  ∃ sign digits, s = sign ++ digits ∧ (sign = [] ∨ sign = ['+']) ∧ digits ≠ [] ∧
    (∀ c ∈ digits, c.isDigit) ∧ digitsValue digits = n

theorem writes_plus_iff {rest : List Char} {n : Nat} :
    Writes ('+' :: rest) n ↔ rest ≠ [] ∧ (∀ c ∈ rest, c.isDigit) ∧ digitsValue rest = n := by
  constructor
  · rintro ⟨sign, digits, eq, rfl | rfl, some, all, value⟩
    · rw [List.nil_append] at eq
      exact absurd (all '+' (eq ▸ List.mem_cons_self)) (by decide)
    · cases eq
      exact ⟨some, all, value⟩
  · rintro ⟨some, all, value⟩
    exact ⟨['+'], rest, rfl, .inr rfl, some, all, value⟩

theorem writes_iff_of_no_sign {s : List Char} {n : Nat} (h : ∀ rest, s ≠ '+' :: rest) :
    Writes s n ↔ s ≠ [] ∧ (∀ c ∈ s, c.isDigit) ∧ digitsValue s = n := by
  constructor
  · rintro ⟨sign, digits, eq, rfl | rfl, some, all, value⟩
    · rw [List.nil_append] at eq
      subst eq
      exact ⟨some, all, value⟩
    · exact absurd eq (h digits)
  · rintro ⟨some, all, value⟩
    exact ⟨[], s, rfl, .inl rfl, some, all, value⟩

/-- A number up to a bound is read from the texts that write it. -/
theorem boundedNumber_eq_ok_iff {bound n : Nat} {s : List Char} :
    boundedNumber bound s = .ok n ↔ Writes s n ∧ n ≤ bound := by
  have digits (s : List Char) : boundedDigits bound 0 s = .ok n ↔
      ((∀ c ∈ s, c.isDigit) ∧ digitsValue s = n) ∧ n ≤ bound :=
    (boundedDigits_eq_ok_iff (Nat.zero_le bound)).trans and_assoc.symm
  unfold boundedNumber
  split
  case h_1 => simp [writes_iff_of_no_sign]
  case h_2 => simp [writes_plus_iff]
  case h_3 =>
    rw [writes_iff_of_no_sign (by simp)]
    exact iff_of_false nofun fun ⟨⟨_, all, _⟩, _⟩ => absurd (all '-' (by simp)) (by decide)
  case h_4 rest some => rw [digits, writes_plus_iff, and_iff_right some]
  case h_5 empty _ _ unsigned =>
    rw [digits, writes_iff_of_no_sign unsigned, and_iff_right empty]

/-- Digits before something else are taken as a whole. -/
theorem takeWhile_digits {digits rest : List Char} (all : ∀ c ∈ digits, c.isDigit)
    (ends : ∀ c ∈ rest.head?, ¬ c.isDigit) :
    (digits ++ rest).takeWhile Char.isDigit = digits := by
  rw [List.takeWhile_append_of_pos all]
  cases rest with
  | nil => simp
  | cons c rest => simp [ends c rfl]

end CleanupCourier
