import Mathlib.Algebra.BigOperators.Intervals
import Mathlib.Algebra.BigOperators.Ring.Finset
import ContentAccess.Time.Calendar

/-!
# Counting days

The number of a day is counted from the start of 1970 by the days of the years and months before
it.  The calendar has a day for every number between its first and its last year, and a day of a
month is found in that month again.
-/

namespace ContentAccess
namespace Calendar

/-! ## Years -/

theorem yearStart_succ (year : Int) :
    yearStart (year + 1) = yearStart year + daysInYear year := by
  unfold yearStart daysInYear isLeap
  split <;> rename_i leap
  · simp only [Bool.and_eq_true, Bool.or_eq_true, beq_iff_eq, bne_iff_ne] at leap
    push_cast
    omega
  · simp only [Bool.and_eq_true, Bool.or_eq_true, beq_iff_eq, bne_iff_ne] at leap
    push_cast
    omega

/-- The days of the years from 1970 up to a year; years before 1970 count backwards. -/
def daysToYear (year : Int) : Int :=
  ∑ passed ∈ Finset.range (year - 1970).toNat, (daysInYear (1970 + passed) : Int) -
    ∑ missing ∈ Finset.range (1970 - year).toNat, (daysInYear (year + missing) : Int)

theorem daysToYear_succ (year : Int) :
    daysToYear (year + 1) = daysToYear year + daysInYear year := by
  unfold daysToYear
  -- From 1970 on a further year adds to the first sum; before 1970 it leaves the second.
  rcases le_or_gt 1970 year with after | before
  · have passed : (year + 1 - 1970).toNat = (year - 1970).toNat + 1 := by omega
    have last : 1970 + ((year - 1970).toNat : Int) = year := by omega
    have noneMissing : (1970 - year).toNat = 0 := by omega
    have noneMissingNext : (1970 - (year + 1)).toNat = 0 := by omega
    rw [passed, Finset.sum_range_succ, last, noneMissing, noneMissingNext, Finset.sum_range_zero,
      Finset.sum_range_zero]
    omega
  · have missing : (1970 - year).toNat = (1970 - (year + 1)).toNat + 1 := by omega
    have nonePassed : (year - 1970).toNat = 0 := by omega
    have nonePassedNext : (year + 1 - 1970).toNat = 0 := by omega
    have later (number : Nat) : year + ((number + 1 : Nat) : Int) = year + 1 + number := by omega
    rw [missing, Finset.sum_range_succ', nonePassed, nonePassedNext, Finset.sum_range_zero]
    simp only [later, Nat.cast_zero, Int.add_zero]
    omega

/-- The days before a year are those of all years since 1970. -/
theorem yearStart_eq_daysToYear (year : Int) : yearStart year = daysToYear year := by
  induction year using Int.inductionOn' (b := 1970) with
  | zero => decide
  | succ year _ step => rw [yearStart_succ, daysToYear_succ, step]
  | pred year _ step =>
      have next := yearStart_succ (year - 1)
      have nextSum := daysToYear_succ (year - 1)
      rw [Int.sub_add_cancel] at next nextSum
      omega

/-- Every day lies in the year that is found for it. -/
theorem yearOfDay_bounds (day : Int) :
    yearStart (yearOfDay day) ≤ day ∧ day < yearStart (yearOfDay day + 1) := by
  unfold yearOfDay
  extract_lets guess
  have guessed : guess = (day + 719162) * 400 / 146097 + 1 := rfl
  split
  · rename_i later
    refine ⟨later, ?_⟩
    unfold yearStart
    dsimp only
    omega
  · rename_i notLater
    split
    · rename_i earlier
      rw [Int.sub_add_cancel]
      refine ⟨?_, earlier⟩
      unfold yearStart
      dsimp only
      omega
    · rename_i notEarlier
      exact ⟨Int.not_lt.mp notEarlier, Int.not_le.mp notLater⟩

theorem yearStart_mono
    {first second : Int}
    (ordered : first ≤ second) :
    yearStart first ≤ yearStart second := by
  unfold yearStart
  dsimp only
  omega

/-- A day from the start of one year to the end of another lies in one of the years from one to
the other. -/
theorem yearOfDay_within
    {first last day : Int}
    (notBefore : yearStart first ≤ day)
    (notAfter : day < yearStart (last + 1)) :
    first ≤ yearOfDay day ∧ yearOfDay day ≤ last := by
  obtain ⟨started, unended⟩ := yearOfDay_bounds day
  constructor
  · by_contra earlier
    have ended := yearStart_mono (Int.add_one_le_of_lt (Int.not_le.mp earlier))
    omega
  · by_contra later
    have unstarted := yearStart_mono (Int.add_one_le_of_lt (Int.not_le.mp later))
    omega

/-! ## Months -/

theorem daysInMonth_le (year : Int) (month : Nat) : daysInMonth year month ≤ 31 := by
  unfold daysInMonth
  split <;> first | split <;> decide | decide

theorem daysBeforeMonth_eq_sum (year : Int) (month : Nat) :
    daysBeforeMonth year month = ∑ passed ∈ Finset.range month, daysInMonth year passed := by
  induction month with
  | zero => rfl
  | succ month step => rw [daysBeforeMonth, Finset.sum_range_succ, step]

theorem daysBeforeMonth_mono
    {year : Int}
    {first second : Nat}
    (ordered : first ≤ second) :
    daysBeforeMonth year first ≤ daysBeforeMonth year second := by
  exact monotone_nat_of_le_succ (fun _ => Nat.le_add_right _ _) ordered

/-- Twelve months make a year. -/
theorem daysBeforeMonth_thirteen (year : Int) : daysBeforeMonth year 13 = daysInYear year := by
  simp only [daysBeforeMonth, daysInMonth, daysInYear]
  split <;> rfl

/-- The days from the start of 1970 to a day, those before it counting backwards. -/
def daysFrom1970 (year : Int) (month day : Nat) : Int :=
  daysToYear year + ∑ passed ∈ Finset.range (month - 1), (daysInMonth year (passed + 1) : Int) +
    (day - 1)

end Calendar

namespace Date

open Calendar

/-- The day of a month of a year. -/
structure IsDay (year : Int) (month day : Nat) : Prop where
  january : 1 ≤ month
  december : month ≤ 12
  first : 1 ≤ day
  last : day ≤ daysInMonth year month

variable {year : Int} {month day : Nat}

theorem IsDay.day_le
    (isDay : IsDay year month day) :
    day ≤ 31 :=
  isDay.last.trans (daysInMonth_le year month)

theorem IsDay.le_daysInYear
    (isDay : IsDay year month day) :
    daysBeforeMonth year month + day ≤ daysInYear year := by
  have within : daysBeforeMonth year (month + 1) ≤ daysBeforeMonth year 13 :=
    daysBeforeMonth_mono (Nat.succ_le_succ isDay.december)
  rw [daysBeforeMonth_thirteen, daysBeforeMonth] at within
  have last := isDay.last
  omega

/-- The calendar has every day of the years it knows. -/
theorem IsDay.ofMonthDay?_eq
    (isDay : IsDay year month day)
    (notBefore : firstYear ≤ year)
    (notAfter : year ≤ lastYear) :
    ofMonthDay? year month day = some ⟨year, daysBeforeMonth year month + day⟩ := by
  have first := isDay.first
  rw [ofMonthDay?, if_pos ⟨isDay.first, isDay.last⟩, ofDayOfYear?,
    if_pos ⟨notBefore, notAfter, by omega, isDay.le_daysInYear⟩]

/-- A day of a month comes after the ends of the months before, and not after its end. -/
theorem IsDay.daysBeforeMonth_lt_iff
    (isDay : IsDay year month day)
    {other : Nat} :
    daysBeforeMonth year other < daysBeforeMonth year month + day ↔ other ≤ month := by
  constructor
  · intro before
    by_contra later
    have passed : daysBeforeMonth year (month + 1) ≤ daysBeforeMonth year other :=
      daysBeforeMonth_mono (Nat.lt_of_not_le later)
    rw [daysBeforeMonth] at passed
    have last := isDay.last
    omega
  · intro notLater
    have passed : daysBeforeMonth year other ≤ daysBeforeMonth year month :=
      daysBeforeMonth_mono notLater
    have first := isDay.first
    omega

theorem IsDay.month_eq
    (isDay : IsDay year month day) :
    Date.month ⟨year, daysBeforeMonth year month + day⟩ = month := by
  have counted : ∀ month ≤ 12,
      ((List.range 12).filter fun before => decide (before + 1 ≤ month)).length = month := by
    decide
  simp only [Date.month, isDay.daysBeforeMonth_lt_iff]
  exact counted month isDay.december

theorem IsDay.day_eq
    (isDay : IsDay year month day) :
    Date.day ⟨year, daysBeforeMonth year month + day⟩ = day := by
  rw [Date.day, isDay.month_eq]
  exact Nat.add_sub_cancel_left _ _

/-- The number of a day counts the days from the start of 1970. -/
theorem IsDay.dayNumber_eq
    (isDay : IsDay year month day) :
    dayNumber ⟨year, daysBeforeMonth year month + day⟩ = daysFrom1970 year month day := by
  have noMonth : daysInMonth year 0 = 0 := rfl
  rw [dayNumber, daysFrom1970, ← yearStart_eq_daysToYear]
  dsimp only
  rw [daysBeforeMonth_eq_sum, ← Nat.sub_add_cancel isDay.january, Finset.sum_range_succ', noMonth,
    Nat.add_sub_cancel]
  push_cast
  omega

/-- The calendar has a day for every number from its first to its last year. -/
theorem isSome_ofDayNumber?
    {number : Int}
    (notBefore : yearStart firstYear ≤ number)
    (notAfter : number < yearStart (lastYear + 1)) :
    (ofDayNumber? number).isSome = true := by
  obtain ⟨started, unended⟩ := yearOfDay_bounds number
  have next := yearStart_succ (yearOfDay number)
  have known := yearOfDay_within notBefore notAfter
  rw [ofDayNumber?, ofDayOfYear?, if_pos]
  · rfl
  · refine ⟨known.1, known.2, ?_, ?_⟩ <;> omega

/-- A day lies between the starts of its year and the next. -/
theorem IsDay.daysFrom1970_bounds
    (isDay : IsDay year month day) :
    yearStart year ≤ daysFrom1970 year month day ∧
      daysFrom1970 year month day < yearStart (year + 1) := by
  have first := isDay.first
  have last := isDay.le_daysInYear
  rw [← isDay.dayNumber_eq, dayNumber, yearStart_succ]
  dsimp only
  omega

/-- Next to a day of a year that is neither the first nor the last one there are days, too. -/
theorem IsDay.isSome_ofDayNumber?
    (isDay : IsDay year month day)
    (known : firstYear < year ∧ year < lastYear)
    {number : Int}
    (near : daysFrom1970 year month day - 1 ≤ number ∧
      number ≤ daysFrom1970 year month day + 1) :
    (ofDayNumber? number).isSome = true := by
  have inYear := isDay.daysFrom1970_bounds
  have afterFirst := yearStart_mono (Int.add_one_le_of_lt known.1)
  have beforeLast := yearStart_mono (Int.add_one_le_of_lt known.2)
  have inFirst : yearStart firstYear < yearStart (firstYear + 1) := by decide
  have inLast : yearStart lastYear < yearStart (lastYear + 1) := by decide
  apply Date.isSome_ofDayNumber? <;> omega

/-- Every day of a year is a day of one of its months. -/
theorem exists_isDay
    {dayOfYear : Nat}
    (first : 1 ≤ dayOfYear)
    (last : dayOfYear ≤ daysInYear year) :
    ∃ month day, IsDay year month day ∧ dayOfYear = daysBeforeMonth year month + day := by
  -- Of the months that are tried, the first that does not end before the day has it.
  have passed : ∀ bound, dayOfYear ≤ daysBeforeMonth year bound →
      ∃ month < bound, daysBeforeMonth year month < dayOfYear ∧
        dayOfYear ≤ daysBeforeMonth year (month + 1) := by
    intro bound
    induction bound with
    | zero => exact fun within => absurd (first.trans within) (Nat.lt_irrefl 0)
    | succ bound step =>
        intro within
        by_cases earlier : dayOfYear ≤ daysBeforeMonth year bound
        · obtain ⟨month, before, inMonth⟩ := step earlier
          exact ⟨month, Nat.lt_succ_of_lt before, inMonth⟩
        · exact ⟨bound, Nat.lt_succ_self bound, Nat.lt_of_not_le earlier, within⟩
  rw [← daysBeforeMonth_thirteen] at last
  obtain ⟨month, december, after, within⟩ := passed 13 last
  rw [daysBeforeMonth] at within
  refine ⟨month, dayOfYear - daysBeforeMonth year month, ⟨?_, ?_, ?_, ?_⟩, ?_⟩
  · by_contra none
    obtain rfl : month = 0 := by omega
    exact absurd (after.trans_le within) (Nat.lt_irrefl 0)
  all_goals omega

/-- Every number is that of a day. -/
theorem exists_daysFrom1970_eq (number : Int) :
    ∃ month day, IsDay (yearOfDay number) month day ∧
      daysFrom1970 (yearOfDay number) month day = number := by
  obtain ⟨started, unended⟩ := yearOfDay_bounds number
  rw [yearStart_succ] at unended
  have inYear : (number - yearStart (yearOfDay number) + 1).toNat ≤
      daysInYear (yearOfDay number) := by
    omega
  obtain ⟨month, day, isDay, same⟩ := exists_isDay (by omega) inYear
  refine ⟨month, day, isDay, ?_⟩
  rw [← isDay.dayNumber_eq, dayNumber]
  dsimp only
  omega

end Date
end ContentAccess
