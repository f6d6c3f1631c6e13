import SyntaxReport.Proofs.Calendar.DayNumber
import SyntaxReport.Proofs.Text.Digits
import SyntaxReport.Report.Basic

/-!
# Time stamps denote instants

The readings that a clock can show and the microseconds of the calendar's years are in one-to-one
correspondence. So a moment has a time stamp exactly if a clock in universal time can show its point
in time, and the time stamp writes what that clock shows, cut off behind the millisecond.

Results:
* `DateTime.microseconds_ofMicroseconds`, `DateTime.Valid.ofMicroseconds_microseconds`: the
  correspondence.
* `Moment.universal?_eq_some_iff`: what a clock in universal time shows at a moment.
* `DateTime.Valid.writtenAs_stamp`: the form of a time stamp.
* `DateTime.Valid.stamp_eq_stamp_iff`: a time stamp tells the millisecond.
* `timestamp_denotes_instant`: which moments have a time stamp, and what it says.
-/

namespace SyntaxReport.Calendar

/-! ## Readings and microseconds -/

namespace DateTime

variable {reading : DateTime}

theorem microsPerDay_pos : 0 < microsPerDay := by decide

theorem microseconds_div (h : reading.Valid) :
    reading.microseconds / microsPerDay = reading.date.dayNumber := by
  rw [microseconds, Nat.add_comm, Nat.add_mul_div_right _ _ microsPerDay_pos,
    Nat.div_eq_of_lt h.microsOfDay_lt, Nat.zero_add]

theorem microseconds_mod (h : reading.Valid) :
    reading.microseconds % microsPerDay = reading.microsOfDay := by
  rw [microseconds, Nat.add_comm, Nat.add_mul_mod_self_right, Nat.mod_eq_of_lt h.microsOfDay_lt]

/-- A count of microseconds is that of the reading found for it. -/
theorem microseconds_ofMicroseconds (count : Nat) :
    (ofMicroseconds count).microseconds = count := by
  have hofDay : (ofMicroseconds count).microsOfDay = count % microsPerDay := by
    simp only [ofMicroseconds, microsOfDay, microsPerSecond]
    omega
  have hday : (ofMicroseconds count).date.dayNumber = count / microsPerDay :=
    Date.dayNumber_ofDayNumber _
  rw [microseconds, hofDay, hday]
  exact Nat.div_add_mod' count microsPerDay

/-- Up to the end of the last year, a clock can show the reading found for a count. -/
theorem valid_ofMicroseconds {count : Nat} (h : count < endOfTime) :
    (ofMicroseconds count).Valid := by
  have hofDay : count % microsPerDay < microsPerDay := Nat.mod_lt _ microsPerDay_pos
  have hday : count / microsPerDay < daysBeforeYear yearLimit :=
    Nat.div_lt_of_lt_mul (by rwa [Nat.mul_comm])
  unfold microsPerDay microsPerSecond at hofDay
  refine ⟨Date.valid_ofDayNumber hday, ?_, ?_, ?_, ?_⟩
  · show count % microsPerDay / microsPerSecond / 3600 < 24
    unfold microsPerDay microsPerSecond
    omega
  · exact Nat.mod_lt _ (by decide)
  · exact Nat.mod_lt _ (by decide)
  · exact Nat.mod_lt _ (by decide)

/-- A reading is found again from its count of microseconds. -/
theorem Valid.ofMicroseconds_microseconds (h : reading.Valid) :
    ofMicroseconds reading.microseconds = reading := by
  rw [ofMicroseconds, microseconds_div h, microseconds_mod h, h.1.ofDayNumber_dayNumber]
  obtain ⟨date, hour, minute, second, microsecond⟩ := reading
  obtain ⟨-, hhour, hminute, hsecond, hmicro⟩ := h
  unfold microsPerSecond at hmicro
  dsimp only at hhour hminute hsecond hmicro
  simp only [microsOfDay, microsPerSecond, mk.injEq, true_and]
  omega

end DateTime

/-! ## Universal time -/

/-- At a moment, a clock in universal time shows the reading with the same point in time, if there
is one. -/
theorem Moment.universal?_eq_some_iff {moment : Moment} {reading : DateTime} :
    moment.universal? = some reading ↔
      reading.Valid ∧ (reading.microseconds : Int) = moment.instant := by
  rw [universal?]
  constructor
  · intro h
    split_ifs at h with hrange
    obtain rfl := Option.some.inj h
    refine ⟨DateTime.valid_ofMicroseconds (by omega), ?_⟩
    rw [DateTime.microseconds_ofMicroseconds, Int.toNat_of_nonneg hrange.1]
  · rintro ⟨hvalid, hinstant⟩
    have hlimit := hvalid.microseconds_lt
    rw [← hinstant, if_pos (by omega), Int.toNat_natCast, hvalid.ofMicroseconds_microseconds]

/-- Moments at the same point in time have the same time stamp, or none of them has one. -/
theorem timestamp_congr {moment other : Moment} (h : other.instant = moment.instant) :
    timestamp other = timestamp moment := by
  rw [timestamp, timestamp, Moment.timestamp?, Moment.timestamp?, Moment.universal?,
    Moment.universal?, h]

/-- What a clock shows is its own time in universal time, unless an offset is known. -/
theorem Moment.exists_timestamp_of_naive {moment : Moment} (h : moment.Valid)
    (hnaive : moment.offset = none) : ∃ stamp, timestamp moment = .ok stamp := by
  have hinstant : (moment.reading.microseconds : Int) = moment.instant := by
    rw [instant, hnaive, Option.getD_none, Int.sub_zero]
  exact ⟨_, timestamp_eq_ok_iff.mpr ⟨_, universal?_eq_some_iff.mpr ⟨h.1, hinstant⟩, rfl⟩⟩

/-! ## The form of a time stamp -/

namespace DateTime

variable {reading : DateTime} {stamp : Text}

/-- The text has the form `YYYY-MM-DDTHH:MM:SS.mmmZ`, and its fields are those of the reading, to
the millisecond. -/
def WrittenAs (reading : DateTime) (stamp : Text) : Prop :=
  ∃ year month day hour minute second millisecond : Text,
    stamp = year ++ '-' :: month ++ '-' :: day ++ 'T' :: hour ++ ':' :: minute ++ ':' :: second ++
      '.' :: millisecond ++ ['Z'] ∧
    Text.IsNumeral 4 reading.date.year year ∧
    Text.IsNumeral 2 reading.date.month month ∧
    Text.IsNumeral 2 reading.date.day day ∧
    Text.IsNumeral 2 reading.hour hour ∧
    Text.IsNumeral 2 reading.minute minute ∧
    Text.IsNumeral 2 reading.second second ∧
    Text.IsNumeral 3 (reading.microsecond / 1000) millisecond

/-- The fields of a time stamp have room for every reading that a clock can show. -/
structure Fits (reading : DateTime) : Prop where
  year : reading.date.year < Nat.pow 10 4
  month : reading.date.month < Nat.pow 10 2
  day : reading.date.day < Nat.pow 10 2
  hour : reading.hour < Nat.pow 10 2
  minute : reading.minute < Nat.pow 10 2
  second : reading.second < Nat.pow 10 2
  millisecond : reading.microsecond / 1000 < Nat.pow 10 3

theorem monthLength_le (leap : Bool) : ∀ month < 12, (monthLengths leap).getD month 0 ≤ 31 := by
  cases leap <;> decide

theorem Valid.fits (h : reading.Valid) : reading.Fits := by
  obtain ⟨⟨-, hyear, -, hmonth, -, hday⟩, hhour, hminute, hsecond, hmicro⟩ := h
  have hlength := monthLength_le (isLeap reading.date.year) (reading.date.month - 1) (by omega)
  unfold microsPerSecond at hmicro
  exact {
    year := hyear
    month := show reading.date.month < 100 by omega
    day := show reading.date.day < 100 by omega
    hour := show reading.hour < 100 by omega
    minute := show reading.minute < 100 by omega
    second := show reading.second < 100 by omega
    millisecond := show reading.microsecond / 1000 < 1000 by omega }

theorem Valid.writtenAs_stamp (h : reading.Valid) : reading.WrittenAs reading.stamp := by
  have hfits := h.fits
  exact ⟨_, _, _, _, _, _, _, rfl, Text.isNumeral_fixedDigits hfits.year,
    Text.isNumeral_fixedDigits hfits.month, Text.isNumeral_fixedDigits hfits.day,
    Text.isNumeral_fixedDigits hfits.hour, Text.isNumeral_fixedDigits hfits.minute,
    Text.isNumeral_fixedDigits hfits.second, Text.isNumeral_fixedDigits hfits.millisecond⟩

theorem WrittenAs.length_eq (h : reading.WrittenAs stamp) : stamp.length = 24 := by
  obtain ⟨_, _, _, _, _, _, _, rfl, hyear, hmonth, hday, hhour, hminute, hsecond, hmilli⟩ := h
  simp [hyear.length_eq, hmonth.length_eq, hday.length_eq, hhour.length_eq, hminute.length_eq,
    hsecond.length_eq, hmilli.length_eq]

/-! ## Whole milliseconds -/

/-- The reading, rounded down to a whole millisecond. -/
def wholeMillisecond (reading : DateTime) : DateTime :=
  { reading with microsecond := reading.microsecond / 1000 * 1000 }

theorem Valid.wholeMillisecond (h : reading.Valid) : reading.wholeMillisecond.Valid := by
  obtain ⟨hdate, hhour, hminute, hsecond, hmicro⟩ := h
  exact ⟨hdate, hhour, hminute, hsecond,
    Nat.lt_of_le_of_lt (Nat.div_mul_le_self reading.microsecond 1000) hmicro⟩

theorem microseconds_wholeMillisecond (reading : DateTime) :
    reading.wholeMillisecond.microseconds = 1000 * (reading.microseconds / 1000) := by
  unfold microseconds microsOfDay DateTime.wholeMillisecond microsPerDay microsPerSecond
  dsimp only
  omega

theorem WrittenAs.wholeMillisecond (h : reading.WrittenAs stamp) :
    reading.wholeMillisecond.WrittenAs stamp := by
  have hsame : reading.microsecond / 1000 * 1000 / 1000 = reading.microsecond / 1000 :=
    Nat.mul_div_cancel _ (by decide)
  unfold WrittenAs DateTime.wholeMillisecond
  rw [hsame]
  exact h

/-- A time stamp tells the fields of its reading, down to the millisecond. -/
theorem Fits.stamp_eq_stamp_iff {a b : DateTime} (ha : a.Fits) (hb : b.Fits) :
    a.stamp = b.stamp ↔ a.wholeMillisecond = b.wholeMillisecond := by
  have hmilli : a.microsecond / 1000 * 1000 = b.microsecond / 1000 * 1000 ↔
      a.microsecond / 1000 = b.microsecond / 1000 := by omega
  have hdate : a.date = b.date ↔
      a.date.year = b.date.year ∧ a.date.month = b.date.month ∧ a.date.day = b.date.day := by
    rw [← Date.mk.injEq]
  have hbase : 10 ≤ 16 := by decide
  simp only [stamp, List.append_assoc, List.cons_append, List.cons.injEq, true_and,
    Text.fixedDigits_append_eq_iff hbase ha.year hb.year,
    Text.fixedDigits_append_eq_iff hbase ha.month hb.month,
    Text.fixedDigits_append_eq_iff hbase ha.day hb.day,
    Text.fixedDigits_append_eq_iff hbase ha.hour hb.hour,
    Text.fixedDigits_append_eq_iff hbase ha.minute hb.minute,
    Text.fixedDigits_append_eq_iff hbase ha.second hb.second,
    Text.fixedDigits_append_eq_iff hbase ha.millisecond hb.millisecond, and_true,
    DateTime.wholeMillisecond, mk.injEq, hmilli, hdate, and_assoc]

/-- A time stamp tells the millisecond of its reading. -/
theorem Valid.stamp_eq_stamp_iff {a b : DateTime} (ha : a.Valid) (hb : b.Valid) :
    a.stamp = b.stamp ↔ a.microseconds / 1000 = b.microseconds / 1000 := by
  rw [ha.fits.stamp_eq_stamp_iff hb.fits]
  constructor
  · intro h
    have hcount := congrArg microseconds h
    rw [microseconds_wholeMillisecond, microseconds_wholeMillisecond] at hcount
    omega
  · -- whole milliseconds are found again from their counts
    intro h
    rw [← ha.wholeMillisecond.ofMicroseconds_microseconds,
      ← hb.wholeMillisecond.ofMicroseconds_microseconds, microseconds_wholeMillisecond,
      microseconds_wholeMillisecond, h]

end DateTime

/-! ## Time stamps -/

/-- A time stamp denotes the point in time of its moment. If a clock in universal time can show that
point, then the moment has a time stamp of 24 characters, and its fields are those of a reading that
a clock can show, the point in time rounded down to a whole millisecond. Otherwise, and only then,
the moment is out of range. A moment without offset always has a time stamp, and moments at the same
point in time have the same. -/
theorem timestamp_denotes_instant (moment : Moment) (h : moment.Valid) :
    ((∃ utc : DateTime, utc.Valid ∧ (utc.microseconds : Int) = moment.instant) →
      ∃ stamp, timestamp moment = .ok stamp ∧ stamp.length = 24 ∧
        ∃ shown : DateTime, shown.Valid ∧ shown.WrittenAs stamp ∧
          (shown.microseconds : Int) = 1000 * (moment.instant / 1000)) ∧
    (timestamp moment = .error .momentOutOfRange ↔
      ¬∃ utc : DateTime, utc.Valid ∧ (utc.microseconds : Int) = moment.instant) ∧
    (moment.offset = none → ∃ stamp, timestamp moment = .ok stamp) ∧
    ∀ other : Moment, other.instant = moment.instant → timestamp other = timestamp moment := by
  refine ⟨?_, ?_, Moment.exists_timestamp_of_naive h, fun other => timestamp_congr⟩
  · rintro ⟨utc, hvalid, hinstant⟩
    have hstamp : timestamp moment = .ok utc.stamp :=
      timestamp_eq_ok_iff.mpr ⟨utc, Moment.universal?_eq_some_iff.mpr ⟨hvalid, hinstant⟩, rfl⟩
    have hwritten := hvalid.writtenAs_stamp
    refine ⟨utc.stamp, hstamp, hwritten.length_eq, utc.wholeMillisecond, hvalid.wholeMillisecond,
      hwritten.wholeMillisecond, ?_⟩
    rw [DateTime.microseconds_wholeMillisecond, ← hinstant]
    omega
  · rw [timestamp_eq_error_iff, and_iff_left rfl, Option.eq_none_iff_forall_ne_some, not_exists]
    exact forall_congr' fun utc => not_congr Moment.universal?_eq_some_iff

/-- An offset of an hour and a microsecond takes the first half hour of March back into a leap day,
and one of a microsecond takes the first day out of the calendar. -/
theorem timestamp_denotes_instant_leapDay :
    Moment.Valid ⟨⟨⟨2000, 3, 1⟩, 0, 30, 0, 999⟩, some (.fixed 3600000001)⟩ ∧
      (∃ shown : DateTime, shown.Valid ∧ shown.WrittenAs "2000-02-29T23:30:00.000Z".toList ∧
        (shown.microseconds : Int) = 63087463800000000) ∧
      Moment.Valid ⟨⟨⟨1, 1, 1⟩, 0, 0, 0, 0⟩, some (.fixed 1)⟩ ∧
      timestamp ⟨⟨⟨1, 1, 1⟩, 0, 0, 0, 0⟩, some (.fixed 1)⟩ = .error .momentOutOfRange := by
  have hvalid : Moment.Valid ⟨⟨⟨2000, 3, 1⟩, 0, 30, 0, 999⟩, some (.fixed 3600000001)⟩ :=
    ⟨by decide, by rintro offset ⟨⟩; decide⟩
  have hearly : Moment.Valid ⟨⟨⟨1, 1, 1⟩, 0, 0, 0, 0⟩, some (.fixed 1)⟩ :=
    ⟨by decide, by rintro offset ⟨⟩; decide⟩
  refine ⟨hvalid, ?_, hearly, ?_⟩
  · obtain ⟨stamp, hstamp, -, hshown⟩ := (timestamp_denotes_instant _ hvalid).1
      ⟨⟨⟨2000, 2, 29⟩, 23, 30, 0, 998⟩, by decide, rfl⟩
    obtain rfl : "2000-02-29T23:30:00.000Z".toList = stamp := Except.ok.inj hstamp
    exact hshown
  · apply (timestamp_denotes_instant _ hearly).2.1.mpr
    rintro ⟨utc, -, hinstant⟩
    have hnegative : Moment.instant ⟨⟨⟨1, 1, 1⟩, 0, 0, 0, 0⟩, some (.fixed 1)⟩ = -1 := rfl
    omega

end SyntaxReport.Calendar
