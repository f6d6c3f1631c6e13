import SyntaxReport.Proofs.Calendar.Instant

/-!
# Time stamps sort by time

The fields of a time stamp stand in the order of their weight and have a fixed width each, so time
stamps are compared field by field. Readings are ordered in the same way as the points in time that
they show, across the ends of months and years as well.

Results:
* `DateTime.stamp_lt_stamp_iff`: the order of time stamps is that of the fields.
* `DateTime.Valid.before_iff`: the order of the fields is that of the points in time.
* `timestamp_lt_iff`: time stamps sort by time, to the millisecond.
-/

namespace SyntaxReport.Calendar

namespace DateTime

variable {a b : DateTime}

/-- The reading shows an earlier time of day, to the millisecond. -/
def EarlierInDay (a b : DateTime) : Prop :=
  a.hour < b.hour ∨ a.hour = b.hour ∧ (a.minute < b.minute ∨ a.minute = b.minute ∧
    (a.second < b.second ∨ a.second = b.second ∧ a.microsecond / 1000 < b.microsecond / 1000))

/-- The reading shows an earlier date, or an earlier time on the same date. -/
def Before (a b : DateTime) : Prop :=
  a.date.Before b.date ∨ a.date = b.date ∧ a.EarlierInDay b

/-! ## The order of time stamps -/

/-- Time stamps are compared by their fields, one after the other. -/
theorem stamp_lt_stamp_iff (ha : a.Fits) (hb : b.Fits) : a.stamp < b.stamp ↔ a.Before b := by
  have hdate : a.date = b.date ↔
      a.date.year = b.date.year ∧ a.date.month = b.date.month ∧ a.date.day = b.date.day := by
    rw [← Date.mk.injEq]
  simp only [stamp, List.append_assoc, List.cons_append, List.cons_lt_cons_self,
    Text.fixedDigits_append_lt_iff ha.year hb.year, Text.fixedDigits_append_lt_iff ha.month hb.month,
    Text.fixedDigits_append_lt_iff ha.day hb.day, Text.fixedDigits_append_lt_iff ha.hour hb.hour,
    Text.fixedDigits_append_lt_iff ha.minute hb.minute,
    Text.fixedDigits_append_lt_iff ha.second hb.second,
    Text.fixedDigits_append_lt_iff ha.millisecond hb.millisecond, List.lt_irrefl, and_false,
    or_false, Before, Date.Before, EarlierInDay, hdate]
  omega

/-! ## The order of points in time -/

theorem Valid.earlierInDay_iff (ha : a.Valid) (hb : b.Valid) :
    a.EarlierInDay b ↔ a.microsOfDay / 1000 < b.microsOfDay / 1000 := by
  obtain ⟨-, hhour, hminute, hsecond, hmicro⟩ := ha
  obtain ⟨-, hhour', hminute', hsecond', hmicro'⟩ := hb
  unfold microsPerSecond at hmicro hmicro'
  unfold EarlierInDay microsOfDay microsPerSecond
  omega

/-- Readings are ordered as the points in time that they show. -/
theorem Valid.before_iff (ha : a.Valid) (hb : b.Valid) :
    a.Before b ↔ a.microseconds / 1000 < b.microseconds / 1000 := by
  have hday := ha.microsOfDay_lt
  have hday' := hb.microsOfDay_lt
  have hdate : a.date = b.date ↔ a.date.dayNumber = b.date.dayNumber := by
    constructor
    · intro h
      rw [h]
    · intro h
      rw [← ha.1.ofDayNumber_dayNumber, h, hb.1.ofDayNumber_dayNumber]
  rw [Before, ← ha.1.dayNumber_lt_iff hb.1, hdate, ha.earlierInDay_iff hb, microseconds,
    microseconds]
  unfold microsPerDay microsPerSecond at *
  omega

end DateTime

/-! ## Time stamps -/

/-- Time stamps sort by time. As texts, they are ordered as the points in time of their moments,
rounded down to milliseconds: the earlier millisecond has the smaller time stamp, and time stamps
are equal exactly within one millisecond. So an earlier moment never has a larger time stamp. -/
theorem timestamp_lt_iff (a b : Moment) (s t : Text) (ha : timestamp a = .ok s)
    (hb : timestamp b = .ok t) :
    (s < t ↔ a.instant / 1000 < b.instant / 1000) ∧
    (s = t ↔ a.instant / 1000 = b.instant / 1000) ∧
    (a.instant < b.instant → ¬t < s) := by
  obtain ⟨utc, hutc, rfl⟩ := timestamp_eq_ok_iff.mp ha
  obtain ⟨utc', hutc', rfl⟩ := timestamp_eq_ok_iff.mp hb
  obtain ⟨hvalid, hinstant⟩ := Moment.universal?_eq_some_iff.mp hutc
  obtain ⟨hvalid', hinstant'⟩ := Moment.universal?_eq_some_iff.mp hutc'
  have hlt : utc.stamp < utc'.stamp ↔ a.instant / 1000 < b.instant / 1000 := by
    rw [DateTime.stamp_lt_stamp_iff hvalid.fits hvalid'.fits, hvalid.before_iff hvalid', ← hinstant,
      ← hinstant']
    omega
  have hgt : utc'.stamp < utc.stamp ↔ b.instant / 1000 < a.instant / 1000 := by
    rw [DateTime.stamp_lt_stamp_iff hvalid'.fits hvalid.fits, hvalid'.before_iff hvalid, ← hinstant,
      ← hinstant']
    omega
  refine ⟨hlt, ?_, ?_⟩
  · constructor
    · intro hsame
      have hnot : ¬utc.stamp < utc'.stamp := hsame ▸ List.lt_irrefl _
      have hnot' : ¬utc'.stamp < utc.stamp := hsame ▸ List.lt_irrefl _
      rw [hlt] at hnot
      rw [hgt] at hnot'
      omega
    · -- of two texts of which none is smaller, both are the same
      intro hsame
      apply List.le_antisymm
      · show ¬utc'.stamp < utc.stamp
        rw [hgt]
        omega
      · show ¬utc.stamp < utc'.stamp
        rw [hlt]
        omega
  · intro hearlier
    rw [hgt]
    omega

/-- The last microsecond of a century without offset, and an instant later by a clock that is five
hours and a half ahead. -/
theorem timestamp_lt_iff_century :
    timestamp ⟨⟨⟨1999, 12, 31⟩, 23, 59, 59, 999999⟩, none⟩ =
        .ok "1999-12-31T23:59:59.999Z".toList ∧
      timestamp ⟨⟨⟨2000, 1, 1⟩, 5, 30, 0, 0⟩, some (.fixed 19800000000)⟩ =
        .ok "2000-01-01T00:00:00.000Z".toList ∧
      "1999-12-31T23:59:59.999Z".toList < "2000-01-01T00:00:00.000Z".toList := by
  have hearlier : timestamp ⟨⟨⟨1999, 12, 31⟩, 23, 59, 59, 999999⟩, none⟩ =
      .ok "1999-12-31T23:59:59.999Z".toList := rfl
  have hlater : timestamp ⟨⟨⟨2000, 1, 1⟩, 5, 30, 0, 0⟩, some (.fixed 19800000000)⟩ =
      .ok "2000-01-01T00:00:00.000Z".toList := rfl
  exact ⟨hearlier, hlater, (timestamp_lt_iff _ _ _ _ hearlier hlater).1.mpr (by decide)⟩

end SyntaxReport.Calendar
