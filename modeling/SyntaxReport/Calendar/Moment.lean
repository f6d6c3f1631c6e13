import SyntaxReport.Calendar.Date
import SyntaxReport.Text.Basic

/-!
# Moments

A moment is a date and a time of day on a clock, with the clock's zone or without one. The zone
tells the clock's offset from universal time. A moment without zone is read as universal time where
a point in time is needed, but it never equals a moment with a zone.

A zone has a constant offset, or a rule that moves its clocks forward and back. When clocks are
moved back, the same readings come twice, and the rule gives them two offsets.

* `DateTime.microseconds` counts the microseconds since the start of year 1 on the same clock,
  `DateTime.ofMicroseconds` finds the clock's reading again.
* `Moment.instant` is the point in time, as the count of microseconds in universal time.
* `Moment.same` compares moments of different zones by their points in time, and moments of one
  zone, or of none, by their readings.
-/

namespace SyntaxReport.Calendar

/-- The reading of a clock, to the microsecond. -/
structure DateTime where
  date : Date
  hour : Nat
  minute : Nat
  second : Nat
  microsecond : Nat
  deriving DecidableEq, Repr

/-- The number of microseconds of a second. -/
def microsPerSecond : Nat := 1000000

/-- The number of microseconds of a day. -/
def microsPerDay : Nat := 86400 * microsPerSecond

namespace DateTime

/-- A reading that a clock can show. -/
def Valid (reading : DateTime) : Prop :=
  reading.date.Valid ∧ reading.hour < 24 ∧ reading.minute < 60 ∧ reading.second < 60 ∧
    reading.microsecond < microsPerSecond

instance (reading : DateTime) : Decidable reading.Valid := by unfold Valid; infer_instance

/-- The microseconds since midnight. -/
def microsOfDay (reading : DateTime) : Nat :=
  ((reading.hour * 60 + reading.minute) * 60 + reading.second) * microsPerSecond +
    reading.microsecond

/-- The microseconds since the start of year 1. -/
def microseconds (reading : DateTime) : Nat :=
  reading.date.dayNumber * microsPerDay + reading.microsOfDay

/-- The reading that many microseconds after the start of year 1. -/
def ofMicroseconds (count : Nat) : DateTime :=
  let ofDay := count % microsPerDay
  let seconds := ofDay / microsPerSecond
  { date := Date.ofDayNumber (count / microsPerDay)
    hour := seconds / 3600
    minute := seconds / 60 % 60
    second := seconds % 60
    microsecond := ofDay % microsPerSecond }

end DateTime

/-- The zone of a clock at some reading. Offsets are the clock's time less universal time, in
microseconds. -/
inductive Zone where
  /-- A constant offset. -/
  | fixed (offset : Int)
  /-- A zone with a rule, by its name: the offset that counts, and the one that the rule gives to
  the same reading on the other side of a change of clocks. Away from the changes they are the same.
  -/
  | ruled (name : Text) (offset other : Int)
  deriving DecidableEq, Repr

namespace Zone

/-- The clock's time less universal time. -/
def offset : Zone → Int
  | fixed offset => offset
  | ruled _ offset _ => offset

/-- The name of a zone with a rule. -/
def name? : Zone → Option Text
  | fixed _ => none
  | ruled name _ _ => some name

/-- Whether the reading has one offset only. -/
def isSteady : Zone → Bool
  | fixed _ => true
  | ruled _ offset other => offset == other

end Zone

/-- A clock's reading, and the zone of the clock, if known. -/
structure Moment where
  reading : DateTime
  zone : Option Zone
  deriving DecidableEq, Repr

/-- The clock's time less universal time in microseconds, if known. -/
def Moment.offset (moment : Moment) : Option Int :=
  moment.zone.map Zone.offset

/-- The end of the last year, in microseconds since the start of year 1. -/
def endOfTime : Nat := daysBeforeYear yearLimit * microsPerDay

namespace Moment

/-- A moment whose reading exists and whose offset is less than a day. -/
def Valid (moment : Moment) : Prop :=
  moment.reading.Valid ∧
    ∀ offset ∈ moment.offset, -(microsPerDay : Int) < offset ∧ offset < microsPerDay

/-- The point in time in universal time, in microseconds since the start of year 1; it may lie
before that start or after the last year. -/
def instant (moment : Moment) : Int :=
  (moment.reading.microseconds : Int) - moment.offset.getD 0

/-- The reading of a clock in universal time, if it lies in the years of the calendar. -/
def universal? (moment : Moment) : Option DateTime :=
  if 0 ≤ moment.instant ∧ moment.instant < endOfTime then
    some (DateTime.ofMicroseconds moment.instant.toNat)
  else none

/-- Whether two moments count as equal. Without zones they do if they show the same reading, and so
they do in the same zone with a rule, whichever of two offsets counts. In different zones they do if
they are the same point in time, and none of the readings has two offsets. -/
def same (a b : Moment) : Bool :=
  match a.zone, b.zone with
  | some zone, some other =>
    if zone.name?.isSome && zone.name? == other.name? then a.reading == b.reading
    else a.instant == b.instant && zone.isSteady && other.isSteady
  | none, none => a.reading == b.reading
  | _, _ => false

end Moment

end SyntaxReport.Calendar
