import CleanupCourier.Proofs.Time.Calendar

/-!
The calendar day by day. The day after a date has the next number, and no two dates have the same;
so the date of a day is the one that is reached by counting days from 1 January 1970, in either
direction, with leap years in every fourth year but for the centuries that are not divisible by 400.
-/
namespace CleanupCourier

namespace Date

/-- The date of the following day. -/
def next (d : Date) : Date :=
  if d.day < daysInMonth d.year d.month then { d with day := d.day + 1 }
  else if d.month < 12 then ⟨d.year, d.month + 1, 1⟩
  else ⟨d.year + 1, 1, 1⟩

/-- Relates a date to the number of its day, counted from 1 January 1970 onwards or backwards. -/
inductive IsDay : Date → Int → Prop
  | epoch : IsDay ⟨1970, 1, 1⟩ 0
  | after {d : Date} {n : Int} : IsDay d n → IsDay d.next (n + 1)
  | before {d : Date} {n : Int} : d.isValid → IsDay d.next (n + 1) → IsDay d n

theorem isValid_iff {d : Date} :
    d.isValid ↔ 1 ≤ d.month ∧ d.month ≤ 12 ∧ 1 ≤ d.day ∧ d.day ≤ daysInMonth d.year d.month := by
  simp [isValid, and_assoc]

theorem isLeapYear_iff {year : Int} :
    isLeapYear year ↔ year % 4 = 0 ∧ (year % 100 ≠ 0 ∨ year % 400 = 0) := by
  simp [isLeapYear]

theorem daysInMonth_pos (year : Int) (month : Nat) : 1 ≤ daysInMonth year month := by
  unfold daysInMonth
  split_ifs <;> decide

theorem isValid_next {d : Date} (h : d.isValid) : d.next.isValid := by
  obtain ⟨first, last, -, -⟩ := isValid_iff.mp h
  unfold next
  split_ifs with within month
  · exact isValid_iff.mpr ⟨first, last, by simp, within⟩
  · exact isValid_iff.mpr ⟨by simp, month, Nat.le_refl 1, daysInMonth_pos _ _⟩
  · exact isValid_iff.mpr ⟨Nat.le_refl 1, Nat.le_add_left 1 11, Nat.le_refl 1, daysInMonth_pos _ _⟩

/-- February ends later in a leap year, and that is the year that has a day more. -/
theorem dayNumber_march (year : Int) :
    dayNumber ⟨year, 3, 1⟩ = dayNumber ⟨year, 2, daysInMonth year 2⟩ + 1 := by
  have leap : isLeapYear year ↔ _ := isLeapYear_iff
  by_cases long : isLeapYear year
  · have long' := leap.mp long
    simp [dayNumber, daysInMonth, long]
    omega
  · have short := mt leap.mpr long
    simp [dayNumber, daysInMonth, long]
    omega

theorem dayNumber_next {d : Date} (h : d.isValid) : d.next.dayNumber = d.dayNumber + 1 := by
  obtain ⟨year, month, day⟩ := d
  obtain ⟨first, last, pos, le⟩ := isValid_iff.mp h
  dsimp only at first last pos le
  unfold next
  split_ifs with within more
  · simp only [dayNumber]
    omega
  · dsimp only at within more
    obtain rfl : day = daysInMonth year month := by omega
    by_cases february : month = 2
    · subst february
      exact dayNumber_march year
    · interval_cases month <;> simp [dayNumber, daysInMonth] at february ⊢ <;> omega
  · dsimp only at within more
    obtain rfl : month = 12 := by omega
    obtain rfl : day = 31 := by
      change ¬ day < 31 at within
      change day ≤ 31 at le
      omega
    simp [dayNumber]
    omega

theorem ofMarch_month {month day : Nat} (pos : 1 ≤ day)
    (le : (153 * month + 2) / 5 + day ≤ (153 * (month + 1) + 2) / 5) (year : Int) :
    ofMarch year ((153 * month + 2) / 5 + day - 1) =
      if month < 10 then ⟨year, month + 3, day⟩ else ⟨year + 1, month - 9, day⟩ := by
  have back : (5 * ((153 * month + 2) / 5 + day - 1) + 2) / 153 = month := by omega
  have place : (153 * month + 2) / 5 + day - 1 - (153 * month + 2) / 5 + 1 = day := by omega
  simp only [ofMarch, back, place]

/-- A date is a day of the year that begins in some March, and a 366th day is a leap day. -/
theorem exists_eq_ofMarch {d : Date} (h : d.isValid) :
    ∃ year dayOfYear, dayOfYear ≤ 365 ∧ (dayOfYear = 365 → isLeapYear (year + 1)) ∧
      d = ofMarch year dayOfYear := by
  obtain ⟨year, month, day⟩ := d
  obtain ⟨first, last, pos, le⟩ := isValid_iff.mp h
  dsimp only at first last pos le
  by_cases february : month = 2
  · subst february
    have short : day ≤ 28 + (if isLeapYear year then 1 else 0) := by
      refine le.trans (Nat.le_of_eq ?_)
      rw [daysInMonth, if_pos rfl]
      split <;> rfl
    have le29 : day ≤ 29 := by split at short <;> omega
    -- February ends the year that began in the March before, and so a leap day is its last.
    refine ⟨year - 1, (153 * 11 + 2) / 5 + day - 1, by omega, fun full => ?_, ?_⟩
    · rw [Int.sub_add_cancel]
      by_contra common
      rw [if_neg common] at short
      omega
    · rw [ofMarch_month pos (by omega)]
      simp
  by_cases march : 3 ≤ month
  · have length : (153 * (month - 3) + 2) / 5 + daysInMonth year month =
        (153 * (month - 3 + 1) + 2) / 5 := by
      interval_cases month <;> rfl
    refine ⟨year, (153 * (month - 3) + 2) / 5 + day - 1, by omega, by omega, ?_⟩
    rw [ofMarch_month pos (by omega), if_pos (by omega), Nat.sub_add_cancel march]
  · obtain rfl : month = 1 := by omega
    change day ≤ 31 at le
    refine ⟨year - 1, (153 * 10 + 2) / 5 + day - 1, by omega, by omega, ?_⟩
    rw [ofMarch_month pos (by omega)]
    simp

/-- How many leap days there are up to a year. -/
def leapDays (year : Int) : Int :=
  year / 4 - year / 100 + year / 400

theorem leapDays_mono {year year' : Int} (h : year ≤ year') : leapDays year ≤ leapDays year' := by
  unfold leapDays
  omega

theorem leapDays_succ {year : Int} (h : isLeapYear (year + 1)) :
    leapDays (year + 1) = leapDays year + 1 := by
  obtain ⟨four, century⟩ := isLeapYear_iff.mp h
  unfold leapDays
  omega

/-- The days of a year come before those of a later one. -/
theorem lt_of_year_lt {year year' : Int} {k : Nat} (hk : k ≤ 365)
    (leap : k = 365 → isLeapYear (year + 1)) (lt : year < year') :
    365 * year + leapDays year + k < 365 * year' + leapDays year' := by
  have step := leapDays_mono (Int.le_of_lt (Int.lt_succ year))
  have later : leapDays (year + 1) ≤ leapDays year' := leapDays_mono lt
  by_cases full : k = 365
  · have more := leapDays_succ (leap full)
    omega
  · omega

/-- No two dates are the same day. -/
theorem eq_of_dayNumber_eq {d d' : Date} (h : d.isValid) (h' : d'.isValid)
    (same : d.dayNumber = d'.dayNumber) : d = d' := by
  obtain ⟨year, k, hk, leap, rfl⟩ := exists_eq_ofMarch h
  obtain ⟨year', k', hk', leap', rfl⟩ := exists_eq_ofMarch h'
  have number (year : Int) {k : Nat} (hk : k ≤ 365) :
      (ofMarch year k).dayNumber = 365 * year + leapDays year + k - epochDay := by
    rw [dayNumber_ofMarch year hk, leapDays]
    omega
  rw [number year hk, number year' hk'] at same
  obtain lt | rfl | gt := Int.lt_trichotomy year year'
  · have := lt_of_year_lt hk leap lt
    omega
  · obtain rfl : k = k' := by omega
    rfl
  · have := lt_of_year_lt hk' leap' gt
    omega

theorem next_ofDayNumber (n : Int) : (ofDayNumber n).next = ofDayNumber (n + 1) := by
  refine eq_of_dayNumber_eq (isValid_next (isValid_ofDayNumber n)) (isValid_ofDayNumber _) ?_
  rw [dayNumber_next (isValid_ofDayNumber n), dayNumber_ofDayNumber, dayNumber_ofDayNumber]

/-- By induction on the number, away from zero. -/
theorem isDay_ofDayNumber (n : Int) : IsDay (ofDayNumber n) n := by
  induction n with
  | zero =>
    have start : ofDayNumber 0 = ⟨1970, 1, 1⟩ := by decide
    exact start ▸ IsDay.epoch
  | succ n ih => exact next_ofDayNumber n ▸ ih.after
  | pred n ih =>
    refine .before (isValid_ofDayNumber _) ?_
    rw [next_ofDayNumber, Int.sub_add_cancel]
    exact ih

end Date

end CleanupCourier
