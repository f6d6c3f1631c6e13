import SyntaxReport.Calendar.Moment

/-!
# Readings lie in the calendar

A year has as many days as its months together, so a date lies before the next new year, and a
reading that a clock can show lies before the end of the last year.

Results:
* `daysBeforeYear_succ`: the length of a year.
* `Date.Valid.dayNumber_lt`: a date lies before the next new year.
* `DateTime.Valid.microseconds_lt`: a reading lies before the end of the last year.
-/

namespace SyntaxReport.Calendar

/-- The days of a year. -/
def yearLength (leap : Bool) : Nat := if leap then 366 else 365

/-- A quotient grows where the number is divided, and nowhere else. -/
theorem succ_div_of_mod {n d : Nat} (h : (n + 1) % d = 0) : (n + 1) / d = n / d + 1 :=
  Nat.succ_div_of_dvd (Nat.dvd_of_mod_eq_zero h)

theorem succ_div_of_not_mod {n d : Nat} (h : (n + 1) % d ≠ 0) : (n + 1) / d = n / d :=
  Nat.succ_div_of_not_dvd fun hdvd => h (Nat.mod_eq_zero_of_dvd hdvd)

/-- From one new year to the next. -/
theorem daysBeforeYear_succ {year : Nat} (h : 1 ≤ year) :
    daysBeforeYear (year + 1) = daysBeforeYear year + yearLength (isLeap year) := by
  obtain ⟨past, rfl⟩ := Nat.exists_eq_add_of_le' h
  have hle : past / 100 ≤ past / 4 := Nat.div_le_div_left (by decide) (by decide)
  simp only [daysBeforeYear, Nat.add_sub_cancel]
  by_cases hfour : (past + 1) % 4 = 0
  · by_cases hhundred : (past + 1) % 100 = 0
    · by_cases hcycle : (past + 1) % 400 = 0
      · have hleap : isLeap (past + 1) = true := by simp [isLeap, hfour, hcycle]
        rw [hleap, succ_div_of_mod hfour, succ_div_of_mod hhundred, succ_div_of_mod hcycle,
          yearLength, if_pos rfl]
        clear hfour hhundred hcycle
        omega
      · have hleap : isLeap (past + 1) = false := by simp [isLeap, hhundred, hcycle]
        rw [hleap, succ_div_of_mod hfour, succ_div_of_mod hhundred, succ_div_of_not_mod hcycle,
          yearLength, if_neg Bool.false_ne_true]
        clear hfour hhundred hcycle
        omega
    · have hcycle : (past + 1) % 400 ≠ 0 := by omega
      have hleap : isLeap (past + 1) = true := by simp [isLeap, hfour, hhundred]
      rw [hleap, succ_div_of_mod hfour, succ_div_of_not_mod hhundred, succ_div_of_not_mod hcycle,
        yearLength, if_pos rfl]
      clear hfour hhundred hcycle
      omega
  · have hhundred : (past + 1) % 100 ≠ 0 := by omega
    have hcycle : (past + 1) % 400 ≠ 0 := by omega
    have hleap : isLeap (past + 1) = false := by simp [isLeap, hfour]
    rw [hleap, succ_div_of_not_mod hfour, succ_div_of_not_mod hhundred, succ_div_of_not_mod hcycle,
      yearLength, if_neg Bool.false_ne_true]
    clear hfour hhundred hcycle
    omega

theorem daysBeforeYear_mono {year later : Nat} (hfirst : 1 ≤ year) (h : year ≤ later) :
    daysBeforeYear year ≤ daysBeforeYear later := by
  induction h with
  | refl => exact Nat.le_refl _
  | step hle ih =>
    rw [daysBeforeYear_succ (Nat.le_trans hfirst hle)]
    exact Nat.le_add_right_of_le ih

/-- The months of a year, up to any one of them, are not longer than the year. -/
theorem daysBeforeMonth_add_le (leap : Bool) : ∀ month < 13,
    daysBeforeMonth leap month + (monthLengths leap).getD (month - 1) 0 ≤ yearLength leap := by
  cases leap <;> decide

/-- A date lies before the next new year. -/
theorem Date.Valid.dayNumber_lt {date : Date} (h : date.Valid) :
    date.dayNumber < daysBeforeYear (date.year + 1) := by
  obtain ⟨hyear, -, -, hmonth, hday, hlast⟩ := h
  have hlength := daysBeforeMonth_add_le (isLeap date.year) date.month (by omega)
  rw [daysBeforeYear_succ hyear, dayNumber]
  omega

/-- A day is not over at any reading of it. -/
theorem DateTime.Valid.microsOfDay_lt {reading : DateTime} (h : reading.Valid) :
    reading.microsOfDay < microsPerDay := by
  obtain ⟨-, hhour, hminute, hsecond, hmicro⟩ := h
  unfold microsPerSecond at hmicro
  unfold microsOfDay microsPerDay microsPerSecond
  omega

/-- A reading that a clock can show lies before the end of the last year. -/
theorem DateTime.Valid.microseconds_lt {reading : DateTime} (h : reading.Valid) :
    reading.microseconds < endOfTime := by
  have hday : reading.date.dayNumber + 1 ≤ daysBeforeYear yearLimit :=
    calc reading.date.dayNumber + 1
      _ ≤ daysBeforeYear (reading.date.year + 1) := h.1.dayNumber_lt
      _ ≤ daysBeforeYear yearLimit := daysBeforeYear_mono (Nat.succ_pos _) h.1.2.1
  calc reading.microseconds
    _ < (reading.date.dayNumber + 1) * microsPerDay := by
      rw [microseconds, Nat.succ_mul]
      exact Nat.add_lt_add_left h.microsOfDay_lt _
    _ ≤ endOfTime := Nat.mul_le_mul_right microsPerDay hday

end SyntaxReport.Calendar
