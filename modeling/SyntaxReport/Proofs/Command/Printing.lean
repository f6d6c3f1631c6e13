import SyntaxReport.Proofs.Calendar.Instant
import SyntaxReport.Proofs.Command.Script
import SyntaxReport.Proofs.Dump.Frame

/-!
# Printing shows what would be saved

A run that prints its report and a run that saves it build the same report first. Rendering it
cannot fail, since the clock shows a moment of the calendar, so all that is left to saving is to
make the directory and to write the file.

Results:
* `exists_render`: the report of a run can be rendered.
* `scripts_of_dumped`: what both runs say where the dump returns.
* `dumpFile_of_printing_failed`: a run that prints fails only where the dump fails alike.
* `run_print_shows_saved`: printing succeeds where saving does, with the text that is saved, and
  fails only where saving fails alike.
-/

namespace SyntaxReport.Command

open Calendar (DateTime Moment)
open Console (Tint)

variable {engine : Engine} {clock : DateTime} {fs : FileSystem} {job : Job} {directory : Text}

section Printing

variable [Codecs]

omit [Codecs] in
/-- A report that is made at the time of a clock can be rendered. -/
theorem exists_render (hclock : clock.Valid) {report : Report}
    (hnow : report.parsedAt = momentOf clock) : ∃ text, report.render = .ok text := by
  have hinstant : (clock.microseconds : Int) = (momentOf clock).instant := by
    simp [momentOf, Moment.instant, Moment.offset, Calendar.Zone.offset]
  have hstamp : timestamp report.parsedAt = .ok clock.stamp := by
    rw [hnow]
    exact timestamp_eq_ok_iff.mpr
      ⟨clock, Moment.universal?_eq_some_iff.mpr ⟨hclock, hinstant⟩, rfl⟩
  unfold Report.render
  rw [hstamp]
  exact ⟨_, rfl⟩

/-- Where a dump returns, the scripts of both runs go back to the same report: it is what one of
them prints, and the file that the other one saves holds it encoded. -/
theorem scripts_of_dumped {now : Moment} {written : Path}
    (h : (dumpFile engine fs job directory now).2.result = .ok written) :
    let dumped := dumpFile engine fs job directory now
    let built := buildReport engine fs job now
    let path := outputPath job.file directory
    ∃ tree text bytes,
      let entries := [job.readingEntry, job.parsingEntry, Job.formattingEntry tree]
      dumped.1.readFile path = .ok bytes ∧ encodeText job.encoding text = .ok bytes ∧
      savingScript job.file dumped.2 =
        ⟨entries ++ [Job.writingEntry path], [.parsed job.file, .saved path], []⟩ ∧
      printingScript job.file built = ⟨entries, [.parsed job.file, .plain text], []⟩ := by
  obtain ⟨rfl, report, text, bytes, hbuilt, hrender, hencode, hread⟩ := dumpFile_ends_well h
  obtain ⟨tree, htree⟩ := entries_of_built hbuilt
  obtain ⟨-, hentries⟩ := dumpFile_log engine fs job now directory
  rw [hbuilt, htree] at hentries
  refine ⟨tree, text, bytes, hread, hencode, ?_, ?_⟩
  · rw [savingScript, h, hentries]
  · rw [printingScript, hbuilt, htree]
    dsimp only
    rw [hrender]

/-- Where the run that prints fails, no report is built, and the dump fails in the same way. -/
theorem dumpFile_of_printing_failed (hclock : clock.Valid) (directory : Text)
    (h : (printingScript job.file (buildReport engine fs job (momentOf clock))).err ≠ []) :
    ∃ error, (buildReport engine fs job (momentOf clock)).result = .error error ∧
      (dumpFile engine fs job directory (momentOf clock)).2.result = .error error ∧
      (dumpFile engine fs job directory (momentOf clock)).1 = fs := by
  cases hbuilt : (buildReport engine fs job (momentOf clock)).result with
  | error error =>
    obtain ⟨hfiles, hresult⟩ := dumpFile_of_error hbuilt directory
    exact ⟨error, rfl, hresult, hfiles⟩
  | ok report =>
    -- The clock shows a moment of the calendar, so the report can be rendered.
    obtain ⟨text, hrender⟩ := exists_render hclock (buildReport_eq_ok hbuilt).2.1
    exact absurd (printingScript_err_eq_nil_iff.mpr ⟨report, text, hbuilt, hrender⟩) h

/-- If a run that saves its report succeeds, then so does the same run that prints it: it changes no
file, logs the same entries up to the last phase, confirms the parsing with the same line, and goes
on with a text whose encoding is what the report's file holds after the other run. If the run that
prints fails, then the run that saves fails too, with the same line on the error stream, and neither
of them changes a file. -/
theorem run_print_shows_saved (engine : Engine) {clock : DateTime} (hclock : clock.Valid)
    (noColor : Option Text) (fs : FileSystem) (job : Job) (directory : Text) (verbose : Bool) :
    let saved := run engine clock noColor fs job directory false verbose
    let shown := run engine clock noColor fs job directory true verbose
    let path := outputPath job.file directory
    let parsed := Tint.green.paint noColor (parsedLine job.file)
    (saved.succeeded = true →
      shown.succeeded = true ∧ shown.files = fs ∧ shown.calls = saved.calls ∧
      shown.printed.err = [] ∧
      ∃ tree text bytes,
        let entries := [job.readingEntry, job.parsingEntry, Job.formattingEntry tree]
        saved.files.readFile path = .ok bytes ∧ encodeText job.encoding text = .ok bytes ∧
        saved.printed.out = logIf verbose noColor (entries ++ [Job.writingEntry path]) ++
          [parsed, Tint.green.paint noColor (savedLine path)] ∧
        printedText shown.printed.out = printedText (logIf verbose noColor entries) ++
          (parsed ++ '\n' :: text ++ ['\n'])) ∧
    (shown.succeeded = false →
      saved.succeeded = false ∧ saved.printed.err = shown.printed.err ∧ saved.files = fs ∧
      shown.files = fs) := by
  intro saved shown path parsed
  have hsaved : saved = _ := run_save engine clock noColor fs job directory verbose
  have hshown : shown = _ := run_print engine clock noColor fs job directory verbose
  rw [hsaved, hshown]
  dsimp only
  constructor
  · intro hsucceeded
    obtain ⟨written, hresult⟩ := savingScript_err_eq_nil_iff.mp (List.isEmpty_iff.mp hsucceeded)
    obtain ⟨hcalls, -⟩ := dumpFile_log engine fs job (momentOf clock) directory
    obtain ⟨tree, text, bytes, hread, hencode, hsaving, hprinting⟩ := scripts_of_dumped hresult
    rw [hsaving, hprinting]
    refine ⟨rfl, rfl, hcalls.symm, rfl, tree, text, bytes, hread, hencode, rfl, ?_⟩
    simp only [Script.printed, List.map_cons, List.map_nil, printedText, List.flatMap_append,
      List.flatMap_cons, List.flatMap_nil, List.append_nil, List.append_assoc]
    rfl
  · intro hfailed
    have herr : (printingScript job.file (buildReport engine fs job (momentOf clock))).err ≠ [] :=
      fun hnil => by simp [hnil] at hfailed
    obtain ⟨error, hbuilt, hresult, hfiles⟩ :=
      dumpFile_of_printing_failed hclock directory herr
    rw [savingScript, hresult, printingScript, hbuilt]
    exact ⟨rfl, rfl, hfiles, rfl⟩

end Printing

/-- The first second of the year 2000. -/
def millennium : DateTime := ⟨⟨2000, 1, 1⟩, 0, 0, 0, 0⟩

open SmallSystem in
/-- A report that is saved in a new directory is the one that is printed. -/
theorem run_print_shows_saved_source :
    let saved := run (fun _ _ => "(a b)".toList) millennium none filesWithSource sourceJob
      "out".toList false true
    let shown := run (fun _ _ => "(a b)".toList) millennium none filesWithSource sourceJob
      "out".toList true true
    saved.succeeded = true ∧ shown.succeeded = true ∧ shown.files = filesWithSource ∧
      ∃ bytes, saved.files.readFile (outputPath sourceJob.file "out".toList) = .ok bytes := by
  intro saved shown
  have hsucceeded : saved.succeeded = true := rfl
  have hclock : millennium.Valid := by decide
  obtain ⟨hshown, -⟩ := run_print_shows_saved (fun _ _ => "(a b)".toList) hclock none
    filesWithSource sourceJob "out".toList true
  obtain ⟨hprinted, hfiles, -, -, -, -, bytes, hread, -⟩ := hshown hsucceeded
  exact ⟨hsucceeded, hprinted, hfiles, bytes, hread⟩

end SyntaxReport.Command
