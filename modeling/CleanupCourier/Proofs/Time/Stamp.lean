import CleanupCourier.Proofs.Text.Decimal
import CleanupCourier.Proofs.Time.Calendar
import CleanupCourier.Time.Stamp

/-!
A time stamp that is written is read as the moment it was written for, but for what is lost in
writing it: the part of a second. Each field of a stamp is read up to the mark behind it.
-/
namespace CleanupCourier

theorem not_isBlank_of_isDigit {c : Char} (h : c.isDigit) : isBlank c = false := by
  have code := Char.isDigit_iff_toNat.mp h
  change 48 ≤ c.toNat ∧ c.toNat ≤ 57 at code
  simp [isBlank]
  omega

section Digits

variable {width n : Nat}

theorem isDigit_paddedDigits {c : Char} (h : c ∈ paddedDigits width n) : c.isDigit := by
  cases List.mem_append.mp h with
  | inl zero =>
    rw [List.eq_of_mem_replicate zero]
    rfl
  | inr digit => exact isDigit_toDigits digit

theorem paddedDigits_ne_nil : paddedDigits width n ≠ [] := by
  simp [paddedDigits, Nat.toDigits_ne_nil]

theorem length_paddedDigits_le (pos : 0 < width) (h : n < 10 ^ width) :
    (paddedDigits width n).length ≤ width := by
  have short : (Nat.toDigits 10 n).length ≤ width :=
    (Nat.length_toDigits_le_iff (by decide) pos).mpr h
  simp only [paddedDigits, List.length_append, List.length_replicate]
  omega

end Digits

namespace Stamp

/-- What ends a field of digits. -/
def Ends (rest : List Char) : Prop :=
  ∀ c ∈ rest.head?, ¬ c.isDigit

theorem skipSpace_cons {c : Char} (h : isBlank c = false) (rest : List Char) :
    skipSpace (c :: rest) = c :: rest := by
  simp [skipSpace, h]

theorem exists_digit (width n : Nat) (rest : List Char) :
    ∃ c more, c.isDigit ∧ paddedDigits width n ++ rest = c :: more := by
  cases eq : paddedDigits width n with
  | nil => exact absurd eq paddedDigits_ne_nil
  | cons c digits => exact ⟨c, digits ++ rest, isDigit_paddedDigits (eq ▸ List.mem_cons_self), rfl⟩

theorem skipSpace_paddedDigits (width n : Nat) (rest : List Char) :
    skipSpace (paddedDigits width n ++ rest) = paddedDigits width n ++ rest := by
  obtain ⟨c, more, digit, eq⟩ := exists_digit width n rest
  rw [eq, skipSpace_cons (not_isBlank_of_isDigit digit)]

theorem number_paddedDigits {limit width n : Nat} {rest : List Char}
    (short : (paddedDigits width n).length ≤ limit) (ends : Ends rest) :
    number limit (paddedDigits width n ++ rest) = .ok (n, rest) := by
  have taken : ((paddedDigits width n ++ rest).takeWhile Char.isDigit).take limit =
      paddedDigits width n := by
    rw [takeWhile_digits (fun _ => isDigit_paddedDigits) ends, List.take_of_length_le short]
  have value : digitsValue (paddedDigits width n) = n := digitsValue_pad _ n
  unfold number
  simp only [taken]
  split
  case h_1 none _ => exact absurd none paddedDigits_ne_nil
  case h_2 none _ => exact absurd none paddedDigits_ne_nil
  case h_3 =>
    rw [List.drop_left]
    exact congrArg (fun n => Except.ok (n, rest)) value

theorem smallField_paddedDigits {low high n : Nat} {rest : List Char} (h : low ≤ n ∧ n ≤ high)
    (two : high < 100) (ends : Ends rest) :
    smallField low high (paddedDigits 2 n ++ rest) = .ok (n, rest) := by
  have short : (paddedDigits 2 n).length ≤ 2 := length_paddedDigits_le (by decide) (by omega)
  rw [smallField, skipSpace_paddedDigits, number_paddedDigits short ends]
  simp [bind, Except.bind, h, pure, Except.pure]

theorem year_yearChars (y : Int) {rest : List Char} (ends : Ends rest) :
    year (yearChars y ++ rest) = .ok (y, rest) := by
  unfold yearChars
  by_cases four : 0 ≤ y ∧ y ≤ 9999
  · have short : (paddedDigits 4 y.toNat).length ≤ 4 :=
      length_paddedDigits_le (by decide) (by omega)
    have read := number_paddedDigits short ends
    have skip := skipSpace_paddedDigits 4 y.toNat rest
    obtain ⟨c, more, digit, eq⟩ := exists_digit 4 y.toNat rest
    have positive : ((y.toNat : Nat) : Int) = y := by omega
    rw [if_pos four, year, skip, eq]
    rw [eq] at read
    split
    case h_1 same => cases same; exact absurd digit (by decide)
    case h_2 same => cases same; exact absurd digit (by decide)
    case h_3 => simp [read, bind, Except.bind, pure, Except.pure, positive]
  · rw [if_neg four]
    have short : (paddedDigits 4 y.natAbs).length ≤ (paddedDigits 4 y.natAbs ++ rest).length := by
      simp
    have read := number_paddedDigits short ends
    by_cases negative : y < 0
    · have value : -((y.natAbs : Nat) : Int) = y := by omega
      rw [if_pos negative, List.cons_append, year, skipSpace_cons (by decide)]
      simp only [read, bind, Except.bind, pure, Except.pure, value]
    · have value : ((y.natAbs : Nat) : Int) = y := by omega
      rw [if_neg negative, List.cons_append, year, skipSpace_cons (by decide)]
      simp only [read, bind, Except.bind, pure, Except.pure, value]

/-- A mark between two fields. -/
theorem literal_cons {c : Char} (h : isBlank c = false) (rest : List Char) :
    literal c (skipSpace (c :: rest)) = .ok rest := by
  rw [skipSpace_cons h, literal, if_pos rfl]

/-- The fields of a stamp are read as they were written. -/
theorem read_fields {y : Int} {month day hour minute second : Nat} (hm : 1 ≤ month ∧ month ≤ 12)
    (hd : 1 ≤ day ∧ day ≤ 31) (hh : hour ≤ 23) (hi : minute ≤ 59) (hs : second ≤ 60) :
    read (yearChars y ++ '-' :: paddedDigits 2 month ++ '-' :: paddedDigits 2 day ++
      'T' :: paddedDigits 2 hour ++ ':' :: paddedDigits 2 minute ++
      ':' :: paddedDigits 2 second ++ ['Z']) =
      let date : Date := ⟨y, month, day⟩
      let t : Instant :=
        ⟨date.dayNumber * 86400 + (hour * 3600 + minute * 60 + min second 59 : Nat),
          second / 60 * 1000000000⟩
      if date.isValid ∧ Instant.firstSecond ≤ t.seconds ∧ t.seconds ≤ Instant.lastSecond then .ok t
      else .error .outOfRange := by
  have dash : isBlank '-' = false ∧ ∀ rest, Ends ('-' :: rest) :=
    ⟨by decide, fun _ => by simp [Ends]⟩
  have colon : isBlank ':' = false ∧ ∀ rest, Ends (':' :: rest) :=
    ⟨by decide, fun _ => by simp [Ends]⟩
  have letters : (∀ rest, Ends ('T' :: rest)) ∧ ∀ rest, Ends ('Z' :: rest) :=
    ⟨fun _ => by simp [Ends], fun _ => by simp [Ends]⟩
  have zone : fraction ['Z'] = .ok (0, ['Z']) ∧ offset ['Z'] = .ok (0, []) := by decide
  simp only [List.append_assoc, List.cons_append]
  unfold read
  simp only [year_yearChars, smallField_paddedDigits, literal_cons, dash, colon, letters, zone, hm,
    hd, hh, hi, hs, bind, Except.bind, Nat.zero_le, Nat.reduceLT, and_self]
  simp [skipSpace]

theorem read_stampChars {t : Instant} (h : t.isInRange) : read t.stampChars = .ok t.truncated := by
  have valid := Date.isValid_ofDayNumber (t.seconds / 86400)
  have number := Date.dayNumber_ofDayNumber (t.seconds / 86400)
  have date : t.date = Date.ofDayNumber (t.seconds / 86400) := rfl
  rw [← date] at valid number
  have fields := valid
  simp only [Date.isValid, Bool.and_eq_true, decide_eq_true_eq] at fields
  have longest : Date.daysInMonth t.date.year t.date.month ≤ 31 := by
    unfold Date.daysInMonth
    split_ifs <;> decide
  simp only [Instant.isInRange, Bool.and_eq_true, Bool.or_eq_true, decide_eq_true_eq,
    beq_iff_eq] at h
  have clock : t.secondOfDay = (t.seconds % 86400).toNat := rfl
  have second : t.second = t.secondOfDay % 60 + t.nanos / 1000000000 := rfl
  have total : t.seconds / 86400 * 86400 + ((t.secondOfDay / 3600 * 3600 +
      t.secondOfDay / 60 % 60 * 60 + min t.second 59 : Nat) : Int) = t.seconds := by omega
  have rest : t.second / 60 * 1000000000 = t.nanos / 1000000000 * 1000000000 := by omega
  rw [Instant.stampChars, read_fields ⟨by omega, by omega⟩ ⟨by omega, by omega⟩ (by omega)
    (by omega) (by omega)]
  simp only [number, total, rest]
  exact if_pos ⟨valid, h.1.1, h.1.2⟩

end Stamp

end CleanupCourier
