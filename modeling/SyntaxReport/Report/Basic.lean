import SyntaxReport.Calendar.Timestamp
import SyntaxReport.Error

/-!
# Reports

A report tells which file was parsed and when, and shows its syntax tree. Reports are equal if they
agree in path and tree and their moments count as equal. A report cannot be changed.

* `timestamp` is the time stamp of a moment; `timestamp_eq_ok_iff` and `timestamp_eq_error_iff` say
  what it is and when there is none.
* `Report.render` writes a report; it fails only if the moment has no time stamp.
* `outputPath` is the path under which a report is kept: the stem of the source's name with the
  suffix `.txt`, in the output directory.
-/

namespace SyntaxReport

open Calendar (Moment)

/-- The report on the syntax tree of a file. -/
structure Report where
  sourcePath : Text
  parsedAt : Moment
  treeText : Text
  deriving DecidableEq, Repr

/-- The time stamp of a moment, or the failure of a moment that has none. -/
def timestamp (moment : Moment) : Except DumpError Text :=
  match moment.timestamp? with
  | some stamp => .ok stamp
  | none => .error .momentOutOfRange

/-- A time stamp is what a clock in universal time shows at the moment. -/
theorem timestamp_eq_ok_iff {moment : Moment} {stamp : Text} :
    timestamp moment = .ok stamp ↔ ∃ utc, moment.universal? = some utc ∧ utc.stamp = stamp := by
  rw [timestamp, Moment.timestamp?]
  cases moment.universal? <;> simp

/-- A moment has no time stamp if it lies outside the calendar in universal time. -/
theorem timestamp_eq_error_iff {moment : Moment} {error : DumpError} :
    timestamp moment = .error error ↔ moment.universal? = none ∧ error = .momentOutOfRange := by
  rw [timestamp, Moment.timestamp?]
  cases moment.universal? <;> simp [eq_comm]

/-- The heading of a report: two lines that name the file and the time stamp, and an empty line. -/
def heading (file stamp : Text) : Text :=
  "File: ".toList ++ file ++ "\nParsed at: ".toList ++ stamp ++ "\n\n".toList

namespace Report

/-- Whether two reports count as equal. -/
def same (a b : Report) : Bool :=
  a.sourcePath == b.sourcePath && a.parsedAt.same b.parsedAt && a.treeText == b.treeText

/-- Whether two reports count as different. -/
def differs (a b : Report) : Bool :=
  !a.same b

/-- The report as text: the heading, and the tree. -/
def render (report : Report) : Except DumpError Text :=
  (timestamp report.parsedAt).map fun stamp => heading report.sourcePath stamp ++ report.treeText

/-- Assign a value to an attribute: a report refuses it for every attribute, known or not. -/
def assign (_report : Report) (_attribute : Text) : Except DumpError Report :=
  .error .reportFrozen

end Report

/-- The suffix of the files that hold reports. -/
def reportSuffix : Text := ".txt".toList

/-- The path of the report on a source file in an output directory. -/
def outputPath (source directory : Text) : Path :=
  (Path.ofText directory).child ((Path.ofText source).stem ++ reportSuffix)

end SyntaxReport
