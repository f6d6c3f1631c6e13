import SyntaxReport.Command.Run

/-!
# What a run has to say

What a run prints is a matter of looks and of substance. The substance is its script: the entries of
the log, and the lines on the two streams with their colours. Whether the log is wanted and whether
colours are shown decides only how a script is printed.

Results:
* `run_save`, `run_print`: a run prints its script, and succeeds if that has no line about a
  failure.
* `Script.printed_err_eq_nil_iff`: such a line is seen whatever the looks.
-/

namespace SyntaxReport.Command

open Calendar (DateTime)
open Console (Tint)

/-- A line to be printed, in a colour or as it is. -/
structure Line where
  tint : Option Tint
  text : Text

namespace Line

/-- The line as it is printed. -/
def shown (noColor : Option Text) (line : Line) : Text :=
  match line.tint with
  | some tint => tint.paint noColor line.text
  | none => line.text

/-- The confirmation that a file has been parsed. -/
def parsed (file : Text) : Line := ⟨some .green, parsedLine file⟩

/-- The confirmation that a report has been saved. -/
def saved (path : Path) : Line := ⟨some .green, savedLine path⟩

/-- The line about a failure. -/
def failed (error : DumpError) : Line := ⟨some .red, failureLine error⟩

/-- A line without colour. -/
def plain (text : Text) : Line := ⟨none, text⟩

/-- Where NO_COLOR is set, a line is its text. -/
theorem shown_some (value : Text) (line : Line) : line.shown (some value) = line.text := by
  unfold shown
  cases line.tint <;> rfl

end Line

/-- What there is to say: the entries of the log, and the lines on both streams. -/
structure Script where
  entries : List Text
  out : List Line
  err : List Line

/-- A script as it is printed. -/
def Script.printed (script : Script) (noColor : Option Text) (verbose : Bool) : Printed :=
  ⟨logIf verbose noColor script.entries ++ script.out.map (Line.shown noColor),
    script.err.map (Line.shown noColor)⟩

/-- What a run says that saves its report. -/
def savingScript (file : Text) (dumped : Attempt Path) : Script :=
  match dumped.result with
  | .error error => ⟨dumped.entries, [], [.failed error]⟩
  | .ok path => ⟨dumped.entries, [.parsed file, .saved path], []⟩

/-- What a run says that prints its report. -/
def printingScript (file : Text) (built : Attempt Report) : Script :=
  match built.result with
  | .error error => ⟨built.entries, [], [.failed error]⟩
  | .ok report =>
    match report.render with
    | .error error => ⟨built.entries, [.parsed file], [.failed error]⟩
    | .ok text => ⟨built.entries, [.parsed file, .plain text], []⟩

theorem Script.printed_err_eq_nil_iff (script : Script) (noColor : Option Text) (verbose : Bool) :
    (script.printed noColor verbose).err = [] ↔ script.err = [] := by
  rw [printed, List.map_eq_nil_iff]

/-- Saving fails if the dump does. -/
theorem savingScript_err_eq_nil_iff {file : Text} {dumped : Attempt Path} :
    (savingScript file dumped).err = [] ↔ ∃ path, dumped.result = .ok path := by
  unfold savingScript
  cases dumped.result <;> simp

/-- Printing fails if there is no report, or if it cannot be rendered. -/
theorem printingScript_err_eq_nil_iff {file : Text} {built : Attempt Report} :
    (printingScript file built).err = [] ↔
      ∃ report text, built.result = .ok report ∧ report.render = .ok text := by
  unfold printingScript
  cases built.result with
  | error error => simp
  | ok report => cases hrender : report.render <;> simp [hrender]

variable [Codecs] (engine : Engine) (clock : DateTime) (noColor : Option Text) (fs : FileSystem)
  (job : Job) (directory : Text) (verbose : Bool)

/-- A run that saves its report is a dump, and says how that went. -/
theorem run_save :
    run engine clock noColor fs job directory false verbose =
      let dumped := dumpFile engine fs job directory (momentOf clock)
      let script := savingScript job.file dumped.2
      ⟨script.err.isEmpty, script.printed noColor verbose, dumped.1, dumped.2.calls⟩ := by
  rw [run_eq, if_neg Bool.false_ne_true]
  dsimp only
  unfold savingScript
  cases (dumpFile engine fs job directory (momentOf clock)).2.result with
  | error error => simp only [Script.printed, List.map_nil, List.append_nil]; rfl
  | ok path => rfl

/-- A run that prints its report builds and renders it, and leaves the file system alone. -/
theorem run_print :
    run engine clock noColor fs job directory true verbose =
      let built := buildReport engine fs job (momentOf clock)
      let script := printingScript job.file built
      ⟨script.err.isEmpty, script.printed noColor verbose, fs, built.calls⟩ := by
  rw [run_eq, if_pos rfl]
  dsimp only
  unfold printingScript
  cases (buildReport engine fs job (momentOf clock)).result with
  | error error => simp only [Script.printed, List.map_nil, List.append_nil]; rfl
  | ok report =>
    dsimp only
    cases report.render with
    | error error => rfl
    | ok text => rfl

end SyntaxReport.Command
