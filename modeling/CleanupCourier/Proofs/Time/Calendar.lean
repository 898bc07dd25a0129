import Mathlib.Tactic.Common
import Mathlib.Tactic.IntervalCases
import CleanupCourier.Time.Calendar

/-!
The two directions of the calendar agree: the date of a day is one that the calendar has, and it is
the date of that day alone. A day is split into its cycle of 400 years, its century, its group of
four years, its year and its place in the year; the last of these is beyond the 365th only in a leap
year, which is what keeps the 29 February where it belongs.
-/
namespace CleanupCourier

namespace Date

/-- The date of a day of the year that begins in the March of `year`. -/
def ofMarch (year : Int) (dayOfYear : Nat) : Date :=
  let month := (5 * dayOfYear + 2) / 153
  let day := dayOfYear - (153 * month + 2) / 5 + 1
  if month < 10 then ⟨year, month + 3, day⟩ else ⟨year + 1, month - 9, day⟩

/-- The months of such a year, counted from zero. -/
theorem ofMarch_cases (year : Int) {dayOfYear : Nat} (h : dayOfYear ≤ 365) :
    ∃ month day, month ≤ 11 ∧ dayOfYear + 1 = (153 * month + 2) / 5 + day ∧ 1 ≤ day ∧
      dayOfYear < (153 * (month + 1) + 2) / 5 ∧
      ofMarch year dayOfYear =
        if month < 10 then ⟨year, month + 3, day⟩ else ⟨year + 1, month - 9, day⟩ := by
  refine ⟨(5 * dayOfYear + 2) / 153, dayOfYear - (153 * ((5 * dayOfYear + 2) / 153) + 2) / 5 + 1,
    ?_, ?_, ?_, ?_, rfl⟩
  all_goals omega

theorem dayNumber_ofMarch (year : Int) {dayOfYear : Nat} (h : dayOfYear ≤ 365) :
    (ofMarch year dayOfYear).dayNumber =
      365 * year + year / 4 - year / 100 + year / 400 + dayOfYear - epochDay := by
  obtain ⟨month, day, le, eq, -, -, date⟩ := ofMarch_cases year h
  rw [date]
  by_cases early : month < 10
  · have back : (month + 3 + 9) % 12 = month := by omega
    simp only [if_pos early, dayNumber, back, if_neg (show ¬ month + 3 ≤ 2 by omega)]
    omega
  · have back : (month - 9 + 9) % 12 = month := by omega
    simp only [if_neg early, dayNumber, back, if_pos (show month - 9 ≤ 2 by omega),
      Int.add_sub_cancel]
    omega

/-- The last month of such a year is the February of the next, so a 366th day asks for a leap
year. -/
theorem isValid_ofMarch {year : Int} {dayOfYear : Nat} (h : dayOfYear ≤ 365)
    (leap : dayOfYear = 365 → isLeapYear (year + 1)) : (ofMarch year dayOfYear).isValid := by
  obtain ⟨month, day, le, eq, pos, lt, date⟩ := ofMarch_cases year h
  rw [date]
  by_cases february : month = 11
  · subst february
    by_cases last : dayOfYear = 365
    · obtain rfl : day = 29 := by omega
      simp [isValid, daysInMonth, leap last]
    · have short : day ≤ 28 := by omega
      have long : day ≤ daysInMonth (year + 1) 2 := by
        rw [daysInMonth, if_pos rfl]
        split <;> omega
      simp [isValid, pos, long]
  · replace le : month ≤ 10 := by omega
    interval_cases month
    all_goals
      simp only [isValid, daysInMonth, Bool.and_eq_true, decide_eq_true_eq]
      norm_num
      omega

/-- The parts of a day: its cycle of 400 years, and within it the century, the group of four years,
the year and the day. Only the last year of a group can have a 366th day, and in the last group of a
century only that of the last century. -/
theorem ofDayNumber_cases (n : Int) :
    ∃ (cycle : Int) (century group one dayOfYear : Nat), century ≤ 3 ∧ group ≤ 24 ∧ one ≤ 3 ∧
      dayOfYear ≤ 365 ∧ (dayOfYear = 365 → one = 3 ∧ (group = 24 → century = 3)) ∧
      n + epochDay = 146097 * cycle + 36524 * century + 1461 * group + 365 * one + dayOfYear ∧
      ofDayNumber n =
        ofMarch (cycle * 400 + (century * 100 + group * 4 + one : Nat)) dayOfYear := by
  let cycle := (n + epochDay) / 146097
  let inCycle := ((n + epochDay) % 146097).toNat
  let century := min (inCycle / 36524) 3
  let inCentury := inCycle - century * 36524
  let group := inCentury / 1461
  let inGroup := inCentury - group * 1461
  let one := min (inGroup / 365) 3
  have cycles : n + epochDay = 146097 * cycle + inCycle ∧ inCycle ≤ 146096 := by omega
  have centuries : century ≤ 3 ∧ inCycle = century * 36524 + inCentury ∧
      inCentury ≤ 36524 ∧ (inCentury = 36524 → century = 3) := by omega
  have groups : group ≤ 24 ∧ inCentury = group * 1461 + inGroup ∧ inGroup ≤ 1460 ∧
      (inGroup = 1460 → group = 24 → inCentury = 36524) := by omega
  have ones : one ≤ 3 ∧ inGroup = one * 365 + (inGroup - one * 365) ∧
      inGroup - one * 365 ≤ 365 ∧ (inGroup - one * 365 = 365 → one = 3 ∧ inGroup = 1460) := by omega
  refine ⟨cycle, century, group, one, inGroup - one * 365, centuries.1, groups.1, ones.1,
    ones.2.2.1, fun last => ?_, ?_, rfl⟩
  · obtain ⟨third, full⟩ := ones.2.2.2 last
    exact ⟨third, fun late => centuries.2.2.2 (groups.2.2.2 full late)⟩
  · omega

theorem dayNumber_ofDayNumber (n : Int) : (ofDayNumber n).dayNumber = n := by
  obtain ⟨cycle, century, group, one, dayOfYear, hc, hg, ho, hd, -, eq, date⟩ :=
    ofDayNumber_cases n
  rw [date, dayNumber_ofMarch _ hd]
  omega

theorem isValid_ofDayNumber (n : Int) : (ofDayNumber n).isValid := by
  obtain ⟨cycle, century, group, one, dayOfYear, hc, hg, ho, hd, last, -, date⟩ :=
    ofDayNumber_cases n
  rw [date]
  refine isValid_ofMarch hd fun full => ?_
  obtain ⟨third, late⟩ := last full
  simp only [isLeapYear, Bool.and_eq_true, Bool.or_eq_true, beq_iff_eq, bne_iff_ne]
  omega

end Date

end CleanupCourier
