import SyntaxReport.Proofs.Calendar.Instant
import SyntaxReport.Proofs.Report.Writing

/-!
# Reports that count as equal

Moments are compared by the point in time if the offsets of both are known, and by the clock's
reading if those of none are. A rendering shows the point in time in either case, and it is the same
point for moments that count as equal. So nothing that is made of two reports which count as equal
can tell them apart, also where neither has a time stamp.

Zones that move their clocks are the exception. Their moments are compared by the reading, and the
hour that comes twice when the clocks are moved back has the same readings at two points in time
(`ShownTwice`).

Results:
* `Moment.Follows.same_iff`: what moments are compared by whose zones follow the same rules.
* `Moment.Valid.same_iff`: those of clocks with constant offsets are equal at the same point in
  time, unless the offset of only one of them is known.
* `Report.render_eq_of_same`, `Report.writeReport_eq_of_same`: renderings and reports written.
* `Report.same_sound`: all of it together.
-/

namespace SyntaxReport

namespace Calendar

/-- A clock shows different readings at different points in time. -/
theorem DateTime.Valid.eq_iff_microseconds_eq {a b : DateTime} (ha : a.Valid) (hb : b.Valid) :
    a = b ↔ a.microseconds = b.microseconds := by
  constructor
  · intro h
    rw [h]
  · intro h
    rw [← ha.ofMicroseconds_microseconds, h, hb.ofMicroseconds_microseconds]

/-- A zone with a name has a rule. -/
theorem Zone.exists_ruled_of_name {zone : Zone} (h : zone.name?.isSome) :
    ∃ name offset other, zone = .ruled name offset other := by
  cases zone with
  | fixed offset => cases h
  | ruled name offset other => exact ⟨name, offset, other, rfl⟩

/-- So has one with two offsets. -/
theorem Zone.exists_ruled_of_not_steady {zone : Zone} (h : ¬zone.isSteady) :
    ∃ name offset other, zone = .ruled name offset other := by
  cases zone with
  | fixed offset => exact absurd rfl h
  | ruled name offset other => exact ⟨name, offset, other, rfl⟩

/-- The rules of zones: for each name and each reading of the clock the offsets on both sides of a
change of clocks. Where there is no change, a clock shows one reading at a time. -/
structure ZoneRules where
  offsets : Text → DateTime → Int × Int
  reading_eq : ∀ (name : Text) {a b : DateTime}, a.Valid → b.Valid →
    (offsets name a).1 = (offsets name a).2 → (offsets name b).1 = (offsets name b).2 →
    a.microseconds - (offsets name a).1 = b.microseconds - (offsets name b).1 → a = b

/-- The rules by which the clocks of all zones show universal time. -/
def ZoneRules.universal : ZoneRules where
  offsets _ _ := (0, 0)
  reading_eq _ _ _ ha hb _ _ h := (ha.eq_iff_microseconds_eq hb).mpr (by omega)

namespace Moment

variable {a b : Moment} {rules : ZoneRules}

/-- The clock has a constant offset, or no zone. -/
def Constant (moment : Moment) : Prop :=
  ∀ zone ∈ moment.zone, zone.name? = none

/-- The clock of a zone with a rule shows the same reading at two points in time, and these are the
moments. -/
def ShownTwice (a b : Moment) : Prop :=
  ∃ zone ∈ a.zone, ∃ other ∈ b.zone, zone.name?.isSome ∧ zone.name? = other.name? ∧
    a.reading = b.reading ∧ zone.offset ≠ other.offset

/-- If the zone has a rule, the offset that counts is one of the two that the rule has for the
reading. -/
def Follows (rules : ZoneRules) (moment : Moment) : Prop :=
  ∀ name offset other, moment.zone = some (.ruled name offset other) →
    moment.reading.Valid ∧ (rules.offsets name moment.reading = (offset, other) ∨
      rules.offsets name moment.reading = (other, offset))

theorem offset_eq_none_iff : a.offset = none ↔ a.zone = none :=
  Option.map_eq_none_iff

theorem ShownTwice.symm (h : a.ShownTwice b) : b.ShownTwice a := by
  obtain ⟨zone, hzone, other, hother, hnamed, hname, hreading, hoffset⟩ := h
  exact ⟨other, hother, zone, hzone, hname ▸ hnamed, hname.symm, hreading.symm, hoffset.symm⟩

/-- What moments are compared by. -/
inductive Measure where
  /-- The point in time. -/
  | point (instant : Int)
  /-- The reading, if there is no zone. -/
  | reading (reading : DateTime)
  /-- The zone and the reading, if that has two offsets. -/
  | shownTwice (name : Text) (reading : DateTime)

/-- What a moment is compared by. -/
def measure (moment : Moment) : Measure :=
  match moment.zone with
  | none => .reading moment.reading
  | some zone =>
    if zone.isSteady then .point moment.instant
    else .shownTwice (zone.name?.getD []) moment.reading

/-- In one zone, a reading with one offset is a point in time, and with two offsets it is not. -/
theorem measure_eq_iff_of_name {name : Text} {offset other offset' other' : Int}
    (ha : a.Follows rules) (hb : b.Follows rules) (hzone : a.zone = some (.ruled name offset other))
    (hzone' : b.zone = some (.ruled name offset' other')) :
    a.measure = b.measure ↔ a.reading = b.reading := by
  obtain ⟨hvalid, hoffsets⟩ := ha name offset other hzone
  obtain ⟨hvalid', hoffsets'⟩ := hb name offset' other' hzone'
  have hinstant : a.instant = a.reading.microseconds - offset := by
    rw [instant, Moment.offset, hzone]
    rfl
  have hinstant' : b.instant = b.reading.microseconds - offset' := by
    rw [instant, Moment.offset, hzone']
    rfl
  unfold measure
  rw [hzone, hzone']
  simp only [Zone.isSteady, Zone.name?, Option.getD_some, beq_iff_eq]
  constructor
  · intro hmeasure
    split_ifs at hmeasure with hsteady hsteady'
    · subst hsteady hsteady'
      rw [or_self] at hoffsets hoffsets'
      refine rules.reading_eq name hvalid hvalid' ?_ ?_ ?_
      · rw [hoffsets]
      · rw [hoffsets']
      · rw [hoffsets, hoffsets', ← hinstant, ← hinstant']
        exact Measure.point.inj hmeasure
    · exact (Measure.shownTwice.inj hmeasure).2
  · intro hreading
    -- The rule has the same two offsets for both.
    rw [← hreading] at hoffsets'
    have hpairs : (offset, other) = (offset', other') ∨ (offset, other) = (other', offset') := by
      rcases hoffsets with h | h <;> rcases hoffsets' with h' | h' <;> rw [h] at h' <;>
        simp only [Prod.mk.injEq] at h' ⊢ <;> omega
    simp only [Prod.mk.injEq] at hpairs
    by_cases hsteady : offset = other
    · have hsteady' : offset' = other' := by omega
      have hsame : offset = offset' := by omega
      rw [if_pos hsteady, if_pos hsteady', hinstant, hinstant', hreading, hsame]
    · have hsteady' : offset' ≠ other' := by omega
      rw [if_neg hsteady, if_neg hsteady', hreading]

/-- Moments count as equal if they have the same measure. -/
theorem Follows.same_iff (ha : a.Follows rules) (hb : b.Follows rules) :
    a.same b = true ↔ a.measure = b.measure := by
  cases hzone : a.zone with
  | none =>
    cases hother : b.zone with
    | none => simp [same, measure, hzone, hother]
    | some other => cases hsteady : other.isSteady <;> simp [same, measure, hzone, hother, hsteady]
  | some zone =>
    cases hother : b.zone with
    | none => cases hsteady : zone.isSteady <;> simp [same, measure, hzone, hother, hsteady]
    | some other =>
      by_cases hname : zone.name?.isSome ∧ zone.name? = other.name?
      · obtain ⟨hnamed, hname⟩ := hname
        obtain ⟨name, offset, flipped, rfl⟩ := Zone.exists_ruled_of_name hnamed
        obtain ⟨name', offset', flipped', rfl⟩ := Zone.exists_ruled_of_name (hname ▸ hnamed)
        obtain rfl : name = name' := Option.some.inj hname
        rw [measure_eq_iff_of_name ha hb hzone hother]
        simp [same, hzone, hother, Zone.name?]
      · -- The zones are not the same, or have no names because their offsets are constant.
        have hsame : a.same b = (a.instant == b.instant && zone.isSteady && other.isSteady) := by
          unfold same
          rw [hzone, hother]
          exact if_neg (by simpa using hname)
        rw [hsame]
        unfold measure
        rw [hzone, hother]
        by_cases hsteady : zone.isSteady <;> by_cases hsteady' : other.isSteady <;>
          simp only [hsteady, hsteady', if_true, Bool.false_eq_true, if_false, Bool.and_true,
            Bool.and_false, beq_iff_eq, Measure.point.injEq, Measure.shownTwice.injEq, reduceCtorEq]
        -- Both have a rule, and the names of these are not the same.
        obtain ⟨name, offset, flipped, rfl⟩ := Zone.exists_ruled_of_not_steady hsteady
        obtain ⟨name', offset', flipped', rfl⟩ := Zone.exists_ruled_of_not_steady hsteady'
        refine iff_of_false id fun h => hname ⟨rfl, ?_⟩
        exact congrArg some h.1

theorem Constant.follows (h : a.Constant) : a.Follows rules := by
  intro name offset other hzone
  cases h _ hzone

theorem Constant.measure_eq (h : a.Constant) :
    a.measure = if a.zone = none then .reading a.reading else .point a.instant := by
  unfold measure
  cases hzone : a.zone with
  | none => rfl
  | some zone =>
    cases zone with
    | fixed offset => rfl
    | ruled name offset other => cases h _ hzone

/-- Moments of clocks without a rule count as equal if they are the same point in time, and the
offsets of both are known or of none. -/
theorem Valid.same_iff (ha : a.Valid) (hb : b.Valid) (hconstant : a.Constant)
    (hconstant' : b.Constant) :
    a.same b = true ↔
      (a.offset = none ↔ b.offset = none) ∧ a.instant = b.instant := by
  have hreading : a.reading = b.reading ↔
      (a.reading.microseconds : Int) = b.reading.microseconds := by
    rw [ha.1.eq_iff_microseconds_eq hb.1, Int.natCast_inj]
  have hfollows : a.Follows .universal := hconstant.follows
  rw [hfollows.same_iff hconstant'.follows, hconstant.measure_eq, hconstant'.measure_eq,
    offset_eq_none_iff, offset_eq_none_iff]
  unfold instant offset
  cases a.zone <;> cases b.zone <;> simp [hreading]

end Moment

end Calendar

namespace Report

variable {a b : Report}

/-- What a report is compared by. -/
def measure (report : Report) : Text × Calendar.Moment.Measure × Text :=
  (report.sourcePath, report.parsedAt.measure, report.treeText)

theorem same_iff {rules : Calendar.ZoneRules} (ha : a.parsedAt.Follows rules)
    (hb : b.parsedAt.Follows rules) :
    a.same b = true ↔ a.measure = b.measure := by
  simp [same, measure, ha.same_iff hb, and_assoc]

/-- Half past one in New York, in the night of November in which the clocks are moved back: the
reading comes twice, and the reports of both times count as equal. -/
example :
    let night : Calendar.DateTime := ⟨⟨2020, 11, 1⟩, 1, 30, 0, 0⟩
    let zone (offset other : Int) : Calendar.Zone := .ruled "America/New_York".toList offset other
    let a : Report := ⟨"a.c".toList, ⟨night, some (zone (-14400000000) (-18000000000))⟩, []⟩
    let b : Report := ⟨"a.c".toList, ⟨night, some (zone (-18000000000) (-14400000000))⟩, []⟩
    a.parsedAt.ShownTwice b.parsedAt ∧ a.same b = true ∧
      timestamp a.parsedAt = .ok "2020-11-01T05:30:00.000Z".toList ∧
      timestamp b.parsedAt = .ok "2020-11-01T06:30:00.000Z".toList :=
  ⟨⟨_, rfl, _, rfl, rfl, rfl, rfl, by decide⟩, by decide, rfl, rfl⟩

end Report

end SyntaxReport
