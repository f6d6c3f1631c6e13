import SyntaxReport.Console.Log
import SyntaxReport.Dump.Job

/-!
# Running a job

`run` does a job and says on the console how it went: two green lines for a report that is saved,
one green line and the report itself for a report that is printed, one red line for a failure.

A stream may refuse a text. Then this is the failure, wherever the run has got to, and what has been
done by then stays. `runOn` runs a job on streams that may refuse texts; it can end without an
answer, if the line about a failure is refused.
-/

namespace SyntaxReport.Command

open Calendar (Moment DateTime)
open Console (Tint logLine logLines)

/-- The texts printed to the two streams, each to be followed by a newline. -/
structure Printed where
  out : List Text
  err : List Text
  deriving DecidableEq, Repr

/-- The text that a stream gets of some printed texts. -/
def printedText (texts : List Text) : Text :=
  texts.flatMap fun text => text ++ ['\n']

/-- How a run ends: whether it succeeds, what it prints, the file system, and the engine calls. -/
structure RunOutcome where
  succeeded : Bool
  printed : Printed
  files : FileSystem
  calls : List EngineCall

/-- How work ends: its exit code or the failure that escapes it, what it prints, the file system,
and the engine calls. -/
structure BodyOutcome where
  exit : Except DumpError Nat
  printed : Printed
  files : FileSystem
  calls : List EngineCall

/-- The texts that the two streams refuse. -/
structure Refusals where
  out : Text → Bool
  err : Text → Bool

/-- Streams that refuse nothing. -/
def Refusals.none : Refusals := ⟨fun _ => false, fun _ => false⟩

/-- The sign in front of a confirmation. -/
def checkMark : Text := "✓".toList

/-- The confirmation that a file has been parsed. -/
def parsedLine (file : Text) : Text :=
  checkMark ++ " Parsed: ".toList ++ file

/-- The confirmation that a report has been saved. -/
def savedLine (path : Path) : Text :=
  checkMark ++ " Saved to: ".toList ++ path.toText

/-- The line about a failure. -/
def failureLine (error : DumpError) : Text :=
  "Parse error: ".toList ++ error.message

/-- The moment that a clock in universal time shows. -/
def momentOf (clock : DateTime) : Moment := ⟨clock, some (.fixed 0)⟩

/-- The lines of the log if it is wanted. -/
def logIf (verbose : Bool) (noColor : Option Text) (entries : List Text) : List Text :=
  if verbose then logLines noColor entries else []

/-- The log on a stream, if it is wanted. -/
def logOn (refuses : Text → Bool) (verbose : Bool) (noColor : Option Text) : Log :=
  fun number entry =>
    if refuses (logLine noColor number entry) && verbose then .error .noTitle else .ok ()

/-- End with a failure, behind what has been printed, and say so if the error stream lets us. -/
def failOn (refusals : Refusals) (noColor : Option Text) (out : List Text) (error : DumpError)
    (files : FileSystem) (calls : List EngineCall) : BodyOutcome :=
  let line := Tint.red.paint noColor (failureLine error)
  if refusals.err line then ⟨.error .noTitle, ⟨out, []⟩, files, calls⟩
  else ⟨.ok 1, ⟨out, [line]⟩, files, calls⟩

variable [Codecs]

/-- Do a job, and print its report or save it in the output directory. -/
def runOn (refusals : Refusals) (engine : Engine) (clock : DateTime) (noColor : Option Text)
    (fs : FileSystem) (job : Job) (directory : Text) (print verbose : Bool) : BodyOutcome :=
  let now := momentOf clock
  let log := logOn refusals.out verbose noColor
  let parsed := Tint.green.paint noColor (parsedLine job.file)
  if print then
    let built := buildLogged log engine fs job now
    let shown := logIf verbose noColor built.entries
    match built.result with
    | .error error => failOn refusals noColor shown error fs built.calls
    | .ok report =>
      if refusals.out parsed then failOn refusals noColor shown .noTitle fs built.calls
      else
        let shown := shown ++ [parsed]
        match report.render with
        | .error error => failOn refusals noColor shown error fs built.calls
        | .ok text =>
          if refusals.out text then failOn refusals noColor shown .noTitle fs built.calls
          else ⟨.ok 0, ⟨shown ++ [text], []⟩, fs, built.calls⟩
  else
    let (fs, dumped) := dumpLogged log engine fs job directory now
    let shown := logIf verbose noColor dumped.entries
    match dumped.result with
    | .error error => failOn refusals noColor shown error fs dumped.calls
    | .ok path =>
      if refusals.out parsed then failOn refusals noColor shown .noTitle fs dumped.calls
      else
        let shown := shown ++ [parsed]
        let saved := Tint.green.paint noColor (savedLine path)
        if refusals.out saved then failOn refusals noColor shown .noTitle fs dumped.calls
        else ⟨.ok 0, ⟨shown ++ [saved], []⟩, fs, dumped.calls⟩

/-- Do a job on streams that refuse nothing. -/
def run (engine : Engine) (clock : DateTime) (noColor : Option Text) (fs : FileSystem) (job : Job)
    (directory : Text) (print verbose : Bool) : RunOutcome :=
  let ended := runOn .none engine clock noColor fs job directory print verbose
  ⟨ended.exit.toOption == some 0, ended.printed, ended.files, ended.calls⟩

/-- Where nothing is refused, a run fails if the job does. -/
theorem run_eq (engine : Engine) (clock : DateTime) (noColor : Option Text) (fs : FileSystem)
    (job : Job) (directory : Text) (print verbose : Bool) :
    run engine clock noColor fs job directory print verbose =
      let now := momentOf clock
      let parsed := Tint.green.paint noColor (parsedLine job.file)
      let failure (error : DumpError) := Tint.red.paint noColor (failureLine error)
      if print then
        let built := buildReport engine fs job now
        let log := logIf verbose noColor built.entries
        match built.result with
        | .error error => ⟨false, ⟨log, [failure error]⟩, fs, built.calls⟩
        | .ok report =>
          match report.render with
          | .error error => ⟨false, ⟨log ++ [parsed], [failure error]⟩, fs, built.calls⟩
          | .ok text => ⟨true, ⟨log ++ [parsed, text], []⟩, fs, built.calls⟩
      else
        let (fs, dumped) := dumpFile engine fs job directory now
        let log := logIf verbose noColor dumped.entries
        match dumped.result with
        | .error error => ⟨false, ⟨log, [failure error]⟩, fs, dumped.calls⟩
        | .ok path =>
          let saved := Tint.green.paint noColor (savedLine path)
          ⟨true, ⟨log ++ [parsed, saved], []⟩, fs, dumped.calls⟩ := by
  have hbuild (now : Moment) : buildLogged (logOn Refusals.none.out verbose noColor) engine fs job
      now = buildReport engine fs job now := rfl
  have hdump (now : Moment) : dumpLogged (logOn Refusals.none.out verbose noColor) engine fs job
      directory now = dumpFile engine fs job directory now := rfl
  unfold run runOn
  simp only [hbuild, hdump]
  cases print with
  | false =>
    rw [if_neg Bool.false_ne_true, if_neg Bool.false_ne_true]
    cases (dumpFile engine fs job directory (momentOf clock)).2.result with
    | error error => rfl
    | ok path =>
      simp only [Refusals.none, Bool.false_eq_true, if_false, List.append_assoc]
      rfl
  | true =>
    rw [if_pos rfl, if_pos rfl]
    cases (buildReport engine fs job (momentOf clock)).result with
    | error error => rfl
    | ok report =>
      simp only [Refusals.none, Bool.false_eq_true, if_false]
      cases report.render with
      | error error => rfl
      | ok text =>
        simp only [List.append_assoc]
        rfl

end SyntaxReport.Command
