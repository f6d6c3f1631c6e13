import Mathlib.Tactic.SplitIfs
import SyntaxReport.Proofs.Calendar.Bounds

/-!
# Dates and day numbers

The days of the calendar are numbered in their order, without gaps. The average length of a year
gives the year of a day number up to one year, and the two neighbouring new years settle which one
it is. Walking through the lengths of the months then finds the month.

Results:
* `yearOf_bounds`: a day number lies between two new years.
* `Date.dayNumber_ofDayNumber`, `Date.valid_ofDayNumber`: every day number of the calendar is that
  of a date.
* `Date.Valid.dayNumber_lt_iff`: dates are ordered as their day numbers are.
* `Date.Valid.ofDayNumber_dayNumber`: so no two dates have the same number.
-/

namespace SyntaxReport.Calendar

/-! ## The year of a day -/

/-- The days before a new year are as many as the average length of a year says, within two days:
400 years have 146097 days. -/
theorem daysBeforeYear_bounds (past : Nat) :
    146097 * past ≤ 400 * daysBeforeYear (past + 1) + 699 ∧
      400 * daysBeforeYear (past + 1) ≤ 146097 * past + 396 := by
  simp only [daysBeforeYear, Nat.add_sub_cancel]
  omega

/-- A day lies between the first day of its year and that of the next. -/
theorem yearOf_bounds (dayNumber : Nat) :
    1 ≤ yearOf dayNumber ∧ daysBeforeYear (yearOf dayNumber) ≤ dayNumber ∧
      dayNumber < daysBeforeYear (yearOf dayNumber + 1) := by
  unfold yearOf
  generalize hpast : dayNumber * 400 / 146097 = past
  have hguess := daysBeforeYear_bounds past
  dsimp only
  split_ifs with hlate hearly
  · -- the guess is a year too late
    cases past with
    | zero =>
      rw [show daysBeforeYear (0 + 1) = 0 by rfl] at hlate
      omega
    | succ past =>
      have hbefore := daysBeforeYear_bounds past
      rw [Nat.add_sub_cancel]
      omega
  · -- the guess is a year too early
    have hnext := daysBeforeYear_bounds (past + 1 + 1)
    omega
  · omega

/-! ## The month of a day -/

/-- The days of months of these lengths. -/
def daysOf (lengths : List Nat) : Nat := lengths.foldl (· + ·) 0

theorem daysOf_cons (length : Nat) (more : List Nat) :
    daysOf (length :: more) = length + daysOf more := by
  rw [daysOf, daysOf, ← List.sum_eq_foldl_nat, ← List.sum_eq_foldl_nat, List.sum_cons]

theorem daysOf_monthLengths (leap : Bool) : daysOf (monthLengths leap) = yearLength leap := by
  cases leap <;> rfl

theorem daysBeforeMonth_succ (leap : Bool) (passed : Nat) :
    daysBeforeMonth leap (1 + passed) = daysOf ((monthLengths leap).take passed) := by
  rw [daysBeforeMonth, Nat.add_sub_cancel_left, daysOf]

/-- Walking through the lengths of the months stops in the month that the day lies in. -/
theorem exists_monthAndDay_eq {lengths : List Nat} {dayOfYear : Nat}
    (h : dayOfYear < daysOf lengths) (month : Nat) :
    ∃ passed day, monthAndDay month dayOfYear lengths = (month + passed, day + 1) ∧
      passed < lengths.length ∧ day < lengths.getD passed 0 ∧
      dayOfYear = daysOf (lengths.take passed) + day := by
  induction lengths generalizing dayOfYear month with
  | nil => exact absurd h (Nat.not_lt_zero dayOfYear)
  | cons length more ih =>
    rw [daysOf_cons] at h
    rw [monthAndDay]
    split_ifs with hfirst
    · exact ⟨0, dayOfYear, rfl, Nat.succ_pos _, hfirst, (Nat.zero_add _).symm⟩
    · obtain ⟨passed, day, heq, hpassed, hday, hsum⟩ :=
        ih (show dayOfYear - length < daysOf more by omega) (month + 1)
      refine ⟨passed + 1, day, ?_, Nat.succ_lt_succ hpassed, hday, ?_⟩
      · rw [heq, Nat.add_assoc, Nat.add_comm 1]
      · rw [List.take_succ_cons, daysOf_cons]
        omega

/-! ## Dates from day numbers -/

/-- The day that a number stands for, by its year, month and day. -/
theorem Date.exists_ofDayNumber_eq (dayNumber : Nat) :
    ∃ year passed day, Date.ofDayNumber dayNumber = ⟨year, 1 + passed, day + 1⟩ ∧
      1 ≤ year ∧ daysBeforeYear year ≤ dayNumber ∧ passed < 12 ∧
      day < (monthLengths (isLeap year)).getD passed 0 ∧
      dayNumber = daysBeforeYear year + daysBeforeMonth (isLeap year) (1 + passed) + day := by
  obtain ⟨hyear, hfirst, hlast⟩ := yearOf_bounds dayNumber
  rw [daysBeforeYear_succ hyear, ← daysOf_monthLengths] at hlast
  obtain ⟨passed, day, heq, hpassed, hday, hsum⟩ := exists_monthAndDay_eq
    (show dayNumber - daysBeforeYear (yearOf dayNumber) <
      daysOf (monthLengths (isLeap (yearOf dayNumber))) by omega) 1
  refine ⟨yearOf dayNumber, passed, day, ?_, hyear, hfirst, hpassed, hday, ?_⟩
  · rw [ofDayNumber, heq]
  · rw [daysBeforeMonth_succ]
    omega

/-- A day number is that of the date found for it. -/
theorem Date.dayNumber_ofDayNumber (dayNumber : Nat) :
    (Date.ofDayNumber dayNumber).dayNumber = dayNumber := by
  obtain ⟨year, passed, day, heq, -, -, -, -, hsum⟩ := exists_ofDayNumber_eq dayNumber
  rw [heq, Date.dayNumber, Nat.add_sub_cancel]
  exact hsum.symm

/-- Up to the end of the last year, the date found for a day number exists. -/
theorem Date.valid_ofDayNumber {dayNumber : Nat} (h : dayNumber < daysBeforeYear yearLimit) :
    (Date.ofDayNumber dayNumber).Valid := by
  obtain ⟨year, passed, day, heq, hyear, hfirst, hpassed, hday, -⟩ := exists_ofDayNumber_eq dayNumber
  have hlimit : year < yearLimit := by
    apply Nat.lt_of_not_le
    intro hle
    have hmono : daysBeforeYear yearLimit ≤ daysBeforeYear year :=
      daysBeforeYear_mono (by decide) hle
    omega
  rw [heq]
  refine ⟨hyear, hlimit, ?_, ?_, ?_, ?_⟩
  · show 1 ≤ 1 + passed
    omega
  · show 1 + passed ≤ 12
    omega
  · exact Nat.succ_pos day
  · rw [Nat.add_sub_cancel_left]
    exact hday

/-! ## The order of dates -/

/-- A month is over before the next one. -/
theorem daysBeforeMonth_add_le_of_lt (leap : Bool) : ∀ month < 13, ∀ later < 13,
    1 ≤ month → month < later →
      daysBeforeMonth leap month + (monthLengths leap).getD (month - 1) 0 ≤
        daysBeforeMonth leap later := by
  cases leap <;> decide

/-- A date is before another by its year, its month in the same year, or its day in the same
month. -/
def Date.Before (a b : Date) : Prop :=
  a.year < b.year ∨ a.year = b.year ∧ (a.month < b.month ∨ a.month = b.month ∧ a.day < b.day)

namespace Date.Valid

variable {a b : Date}

theorem dayNumber_lt_of_year_lt (ha : a.Valid) (h : a.year < b.year) :
    a.dayNumber < b.dayNumber :=
  calc a.dayNumber
    _ < daysBeforeYear (a.year + 1) := ha.dayNumber_lt
    _ ≤ daysBeforeYear b.year := daysBeforeYear_mono (Nat.succ_pos _) h
    _ ≤ b.dayNumber := by
      rw [dayNumber, Nat.add_assoc]
      exact Nat.le_add_right _ _

theorem dayNumber_lt_of_month_lt (ha : a.Valid) (hb : b.Valid) (hyear : a.year = b.year)
    (h : a.month < b.month) : a.dayNumber < b.dayNumber := by
  obtain ⟨-, -, hfirst, hmonth, hday, hlast⟩ := ha
  obtain ⟨-, -, -, hmonth', -, -⟩ := hb
  have hover := daysBeforeMonth_add_le_of_lt (isLeap a.year) a.month (by omega) b.month (by omega)
    hfirst h
  rw [dayNumber, dayNumber, ← hyear]
  omega

/-- Dates are ordered as their numbers are. -/
theorem dayNumber_lt_iff (ha : a.Valid) (hb : b.Valid) :
    a.dayNumber < b.dayNumber ↔ a.Before b := by
  unfold Before
  rcases Nat.lt_trichotomy a.year b.year with hyear | hyear | hyear
  · have hlt := ha.dayNumber_lt_of_year_lt hyear
    omega
  · rcases Nat.lt_trichotomy a.month b.month with hmonth | hmonth | hmonth
    · have hlt := ha.dayNumber_lt_of_month_lt hb hyear hmonth
      omega
    · have hfirst : 1 ≤ a.day := ha.2.2.2.2.1
      have hfirst' : 1 ≤ b.day := hb.2.2.2.2.1
      rw [dayNumber, dayNumber, hyear, hmonth]
      omega
    · have hlt := hb.dayNumber_lt_of_month_lt ha hyear.symm hmonth
      omega
  · have hlt := hb.dayNumber_lt_of_year_lt hyear
    omega

/-- A date is found again from its number. -/
theorem ofDayNumber_dayNumber (ha : a.Valid) : Date.ofDayNumber a.dayNumber = a := by
  have hlimit : a.dayNumber < daysBeforeYear yearLimit :=
    Nat.lt_of_lt_of_le ha.dayNumber_lt (daysBeforeYear_mono (Nat.succ_pos _) ha.2.1)
  have hfound := Date.valid_ofDayNumber hlimit
  have hsame := Date.dayNumber_ofDayNumber a.dayNumber
  generalize Date.ofDayNumber a.dayNumber = b at hfound hsame
  -- neither of two dates with one number is before the other
  have hbefore := (not_congr (ha.dayNumber_lt_iff hfound)).mp (by omega)
  have hbehind := (not_congr (hfound.dayNumber_lt_iff ha)).mp (by omega)
  obtain ⟨year, month, day⟩ := a
  obtain ⟨year', month', day'⟩ := b
  simp only [Before] at hbefore hbehind
  rw [Date.mk.injEq]
  omega

end Date.Valid

end SyntaxReport.Calendar
