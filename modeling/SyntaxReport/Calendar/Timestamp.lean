import SyntaxReport.Calendar.Moment
import SyntaxReport.Text.Basic

/-!
# Time stamps

A time stamp writes a moment in universal time, rounded down to a millisecond, with 24 characters:
`YYYY-MM-DDTHH:MM:SS.mmmZ`. A moment outside the years 1 to 9999 in universal time has none.
-/

namespace SyntaxReport.Calendar

open Text (fixedDigits)

/-- A reading in universal time as a time stamp. -/
def DateTime.stamp (reading : DateTime) : Text :=
  fixedDigits 10 4 reading.date.year ++ '-' :: fixedDigits 10 2 reading.date.month ++
    '-' :: fixedDigits 10 2 reading.date.day ++ 'T' :: fixedDigits 10 2 reading.hour ++
    ':' :: fixedDigits 10 2 reading.minute ++ ':' :: fixedDigits 10 2 reading.second ++
    '.' :: fixedDigits 10 3 (reading.microsecond / 1000) ++ ['Z']

/-- The time stamp of a moment, if its universal time lies in the years of the calendar. -/
def Moment.timestamp? (moment : Moment) : Option Text :=
  moment.universal?.map DateTime.stamp

end SyntaxReport.Calendar
