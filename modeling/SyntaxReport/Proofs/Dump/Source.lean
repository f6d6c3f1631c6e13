import SyntaxReport.Command.Run
import SyntaxReport.Proofs.Dump.Phases

/-!
# What a dump does to its source

The path of a report comes from the stem of the source's name and from the output directory, and may
lead back to the source: if that has the name of its own report and lies in the output directory, or
along a link. Only then does a dump touch its source.

Results:
* `readFile_source_of_not`: otherwise the source is read as before.
* `readFile_source_of_writesOver`: what a source holds that is written over.
* `source_after_dump`: all of it, for `dumpFile` and for `run`.
* `dump_overwrites_source`: a source that is lost.
-/

namespace SyntaxReport

open Calendar (Moment DateTime)
open Command (run momentOf)
open FileSystem

section Sources

variable [Codecs]

/-- The report on a file is written over the file itself: it is opened where the file lies. -/
def WritesOver (fs : FileSystem) (file directory : Text) : Prop :=
  ∃ location, OpensReportAt fs file directory location ∧
    fs.locate (Path.ofText file) = .ok location

/-- The bytes that a job's report has on disk; `none` if the job ends before any are written. -/
def reportBytes? (engine : Engine) (fs : FileSystem) (job : Job) (now : Moment) : Option Bytes :=
  match (buildReport engine fs job now).result with
  | .error _ => none
  | .ok report => report.finalBytes? job.encoding

variable {engine : Engine} {fs : FileSystem} {job : Job} {directory : Text} {now : Moment}

theorem readFile_of_readSource {file encoding : Text} {source : Points}
    (h : readSource fs file encoding = .ok source) :
    ∃ bytes, fs.readFile (Path.ofText file) = .ok bytes := by
  unfold readSource at h
  rcases hname : checkEncodingName encoding with error | _
  · simp [hname] at h
  rcases hread : fs.readFile (Path.ofText file) with fault | bytes
  · simp [hname, hread] at h
  · exact ⟨bytes, rfl⟩

/-! ## The two cases -/

/-- A source that is not written over is read as before. -/
theorem readFile_source_of_not (h : ¬WritesOver fs job.file directory) :
    (dumpFile engine fs job directory now).1.readFile (Path.ofText job.file) =
      fs.readFile (Path.ofText job.file) := by
  rcases hbuilt : (buildReport engine fs job now).result with error | report
  · rw [(dumpFile_of_error hbuilt directory).1]
  · rw [(dumpFile_of_ok hbuilt directory).1]
    obtain ⟨hfile, -, source, hread⟩ := buildReport_eq_ok hbuilt
    obtain ⟨bytes, hbytes⟩ := readFile_of_readSource hread
    obtain ⟨location, hlocate, hlookup⟩ := readFile_eq_ok_iff.mp hbytes
    have hend := writeReport_ends fs report directory job.encoding
    have hother : ¬OpensReportAt fs report.sourcePath directory location := by
      intro hopens
      exact h ⟨location, hfile ▸ hopens, hlocate⟩
    rw [hbytes, readFile_eq_ok_iff_of_locate (locate_mono hend.persists hlocate),
      hend.lookup_file_iff hother]
    exact hlookup

/-- A source that is written over holds the report in the end, or what is left of it. -/
theorem readFile_source_of_writesOver (h : WritesOver fs job.file directory) :
    (dumpFile engine fs job directory now).1.readFile (Path.ofText job.file) =
      (reportBytes? engine fs job now).elim (fs.readFile (Path.ofText job.file)) .ok := by
  unfold reportBytes?
  rcases hbuilt : (buildReport engine fs job now).result with error | report
  · rw [(dumpFile_of_error hbuilt directory).1]
    rfl
  · rw [(dumpFile_of_ok hbuilt directory).1]
    obtain ⟨hfile, -, -⟩ := buildReport_eq_ok hbuilt
    obtain ⟨location, hopens, hlocate⟩ := h
    have hend := writeReport_ends fs report directory job.encoding
    have hlookup := hend.lookup_eq (hfile ▸ hopens)
    have hafter := locate_mono hend.persists hlocate
    dsimp only
    rcases hbytes : report.finalBytes? job.encoding with _ | bytes
    · rw [hbytes] at hlookup
      exact readFile_congr hlocate hafter hlookup
    · rw [hbytes] at hlookup
      exact (readFile_eq_ok_iff_of_locate hafter).mpr hlookup

/-! ## The source after a dump -/

theorem run_files (clock : DateTime) (noColor : Option Text) (verbose : Bool) :
    (run engine clock noColor fs job directory false verbose).files =
      (dumpFile engine fs job directory (momentOf clock)).1 := by
  simp only [Command.run_eq, Bool.false_eq_true, if_false]
  rcases dumpFile engine fs job directory (momentOf clock) with ⟨after, ⟨result, entries, calls⟩⟩
  cases result with
  | error error => rfl
  | ok path => rfl

/-- A source is read after a dump as before, unless the report on it is written over it; then it
holds that report, if the dump comes to opening the file. -/
theorem source_after_dump (engine : Engine) (fs : FileSystem) (job : Job) (directory : Text)
    (now : Moment) (clock : DateTime) (noColor : Option Text) (verbose : Bool) :
    let source := Path.ofText job.file
    let dumped := (dumpFile engine fs job directory now).1
    let ran := (run engine clock noColor fs job directory false verbose).files
    (¬WritesOver fs job.file directory →
      dumped.readFile source = fs.readFile source ∧ ran.readFile source = fs.readFile source) ∧
    (WritesOver fs job.file directory →
      dumped.readFile source =
          (reportBytes? engine fs job now).elim (fs.readFile source) .ok ∧
        ran.readFile source =
          (reportBytes? engine fs job (momentOf clock)).elim (fs.readFile source) .ok) := by
  intro source dumped ran
  have hran : ran = (dumpFile engine fs job directory (momentOf clock)).1 :=
    run_files clock noColor verbose
  rw [hran]
  constructor
  · intro hother
    exact ⟨readFile_source_of_not hother, readFile_source_of_not hother⟩
  · intro hover
    exact ⟨readFile_source_of_writesOver hover, readFile_source_of_writesOver hover⟩

end Sources

/-! ## A source that is lost -/

/-- A file `notes.txt` in the root directory, where the program works. -/
def filesWithNotes : FileSystem :=
  { entries := [(["notes.txt".toList], .file [0x78])]
    workingDirectory := [] }

/-- The job to dump that file. -/
def notesJob : Job := ⟨"notes.txt".toList, none, "utf-8".toList, [' ']⟩

/-- What a clock shows on a morning in October. -/
def octoberClock : DateTime := ⟨⟨2026, 10, 16⟩, 8, 30, 0, 123000⟩

open SmallSystem in
/-- Dumped into its own directory, the file holds the report instead. -/
theorem dump_overwrites_source :
    let dumped := dumpFile (fun _ _ => ['x']) filesWithNotes notesJob ['.'] (momentOf octoberClock)
    dumped.1.readFile (Path.ofText notesJob.file) ≠
      filesWithNotes.readFile (Path.ofText notesJob.file) := by
  decide +kernel

theorem writesOver_notes : WritesOver filesWithNotes notesJob.file ['.'] :=
  ⟨["notes.txt".toList], ⟨filesWithNotes, rfl, ⟨_, rfl, rfl⟩, rfl, by decide⟩, rfl⟩

theorem not_writesOver_notes : ¬WritesOver filesWithNotes notesJob.file "out".toList := by
  rintro ⟨location, ⟨made, hmade, hopens⟩, hlocate⟩
  have hopens' : made.OpensAt (outputPath notesJob.file "out".toList)
      ["notes.txt".toList, "out".toList] := by
    obtain rfl := (Prod.mk.inj hmade).1
    exact ⟨⟨_, rfl, rfl⟩, by decide, fun _ => by decide⟩
  have hsource : filesWithNotes.locate (Path.ofText notesJob.file) = .ok ["notes.txt".toList] := rfl
  obtain rfl := hopens.unique hopens'
  have hsame := Except.ok.inj (hsource.symm.trans hlocate)
  exact absurd hsame (by decide)

/-- In the directory `out`, a link `notes.txt` leads to the source `notes.js`: its report is written
over it although its own name is another. -/
example :
    WritesOver
      { entries := [(["notes.js".toList], .file [0x78]), (["out".toList], .directory)]
        workingDirectory := []
        links := [(["notes.txt".toList, "out".toList], ["notes.js".toList])] }
      "notes.js".toList "out".toList :=
  ⟨["notes.js".toList], ⟨_, rfl, ⟨_, rfl, rfl⟩, rfl, by decide⟩, rfl⟩

open SmallSystem in
/-- The file survives a dump into another directory, and not into its own. -/
theorem source_after_dump_notes :
    let source := Path.ofText notesJob.file
    let dumped (directory : Text) :=
      (dumpFile (fun _ _ => ['x']) filesWithNotes notesJob directory (momentOf octoberClock)).1
    (dumped "out".toList).readFile source = .ok [0x78] ∧
      ∃ bytes, reportBytes? (fun _ _ => ['x']) filesWithNotes notesJob (momentOf octoberClock) =
          some bytes ∧
        (dumped ['.']).readFile source = .ok bytes := by
  intro source dumped
  have hkept := (source_after_dump (fun _ _ => ['x']) filesWithNotes notesJob "out".toList
    (momentOf octoberClock) octoberClock none false).1 not_writesOver_notes
  have hlost := (source_after_dump (fun _ _ => ['x']) filesWithNotes notesJob ['.']
    (momentOf octoberClock) octoberClock none false).2 writesOver_notes
  refine ⟨hkept.1, ?_⟩
  have hbytes : (reportBytes? (fun _ _ => ['x']) filesWithNotes notesJob
      (momentOf octoberClock)).isSome := by decide +kernel
  obtain ⟨bytes, hbytes⟩ := Option.isSome_iff_exists.mp hbytes
  refine ⟨bytes, hbytes, ?_⟩
  rw [hbytes] at hlost
  exact hlost.1

end SyntaxReport
