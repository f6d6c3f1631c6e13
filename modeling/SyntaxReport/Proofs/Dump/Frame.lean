import SyntaxReport.Proofs.Dump.Phases

/-!
# What a dump does to the file system

A dump makes the directories that its output directory is spelled with, and writes one file. It
takes nothing away and leaves all other files alone, whether it succeeds or fails; and if it fails
before the writing, it changes nothing at all.

Results:
* `WriteEnd.locationChange`: what can become of a location (`LocationChange`) when a report is
  written.
* `dumpFile_ends_well`: what a dump that returns has done.
* `dumpFile_frame`: what a dump leaves alone, and what is there when it succeeds.
-/

namespace SyntaxReport

open Calendar (Moment)
open FileSystem

/-- What becomes of a location, given the paths of the output directory and of the report. -/
inductive LocationChange (fs after : FileSystem) (directory report : Path)
    (location : Location) : Prop
  /-- It stays as it is. -/
  | kept : after.lookup location = fs.lookup location →
      LocationChange fs after directory report location
  /-- A directory is new. It is the output directory, or the path to that leads through it. -/
  | directory {names : List Name} :
      fs.lookup location = none → after.lookup location = some .directory →
      names <+: directory.names → after.locate ⟨directory.root, names⟩ = .ok location →
      LocationChange fs after directory report location
  /-- The report's file is written, where no directory was. -/
  | report {content : Bytes} :
      fs.lookup location ≠ some .directory → after.lookup location = some (.file content) →
      after.locate report = .ok location → LocationChange fs after directory report location

/-! ## Writing a report -/

variable {fs made after : FileSystem}

/-- Making directories changes no location but those of new directories on the path. -/
theorem locationChange_of_makeDirectories {path : Path} {answer : Except Refusal Unit}
    (h : fs.makeDirectories path = (made, answer)) (report : Path) (location : Location) :
    LocationChange fs made path report location := by
  rcases (addsDirectories_of_makeDirectories h).lookup_eq location with heq | ⟨hnone, hdir⟩
  · exact .kept heq
  · have hsome : made.lookup location ≠ none := by
      rw [hdir]
      exact Option.some_ne_none _
    obtain ⟨names, hnames, hlocate⟩ := locate_of_makeDirectories h hnone hsome
    exact .directory hnone hdir hnames hlocate

/-- Writing a file behind that changes one more location, that of the file. -/
theorem locationChange_of_put {path report : Path} {answer : Except Refusal Unit}
    (h : fs.makeDirectories path = (made, answer)) {opened : Location}
    (hopens : made.OpensAt report opened) (content : Bytes) (location : Location) :
    LocationChange fs (made.put opened (.file content)) path report location := by
  have hlookup := hopens.lookup_put content location
  by_cases heq : location = opened
  · subst heq
    rw [if_pos rfl] at hlookup
    refine .report (fun hdir => ?_) hlookup (hopens.locate_put content)
    -- a directory would still be there when the file is opened
    have hmade := (addsDirectories_of_makeDirectories h).persists.directory location
      (by rw [isDirectoryAt, hdir, beq_self_eq_true])
    rw [hopens.noDirectory] at hmade
    cases hmade
  · rw [if_neg heq] at hlookup
    cases locationChange_of_makeDirectories h report location with
    | kept hkept => exact .kept (hlookup.trans hkept)
    | directory hnone hdir hnames hlocate =>
      have hpersists := persists_put_file hopens.noDirectory content
      exact .directory hnone (hlookup.trans hdir) hnames (locate_mono hpersists hlocate)
    | report hdir hfile hlocate =>
      have hpersists := persists_put_file hopens.noDirectory content
      exact .report hdir (hlookup.trans hfile) (locate_mono hpersists hlocate)

section Dumping

variable [Codecs]

/-- However the writing of a report ends, only directories on the path of the output directory are
new, and only the report's file is written. -/
theorem WriteEnd.locationChange {report : LooseReport} {directory encoding : Text}
    {result : Except DumpError Path} (h : WriteEnd fs report directory encoding after result)
    (location : Location) :
    LocationChange fs after (Path.ofText directory) (outputPath report.sourcePath directory)
      location := by
  cases h with
  | directoryRefused hmade | notRendered hmade _ | notNamed hmade _ _ | notOpened hmade _ _ _ =>
    exact locationChange_of_makeDirectories hmade _ location
  | notEncoded hmade _ _ hopens _ | written hmade _ _ hopens _ =>
    exact locationChange_of_put hmade hopens _ location

omit [Codecs] in
theorem isDirectory_mono {path : Path} (hpersists : Persists fs after)
    (h : fs.isDirectory path = .ok true) : after.isDirectory path = .ok true := by
  rw [isDirectory_eq_ok_true_iff] at h ⊢
  obtain ⟨location, hlocate, hdir⟩ := h
  exact ⟨location, locate_mono hpersists hlocate, hpersists.directory location hdir⟩

/-- A report that is written is in its directory, and all of its bytes are in the file. -/
theorem WriteEnd.of_ok {report : LooseReport} {directory encoding : Text} {path : Path}
    (h : WriteEnd fs report directory encoding after (.ok path)) :
    path = outputPath report.sourcePath directory ∧
      (∀ names, names <+: (Path.ofText directory).names →
        after.isDirectory ⟨(Path.ofText directory).root, names⟩ = .ok true) ∧
      ∃ points bytes, report.render = .ok points ∧ encodePoints encoding points = .ok bytes ∧
        after.readFile path = .ok bytes := by
  cases h with
  | @written _ points _ bytes hmade hrender _ hopens hencode =>
    refine ⟨rfl, fun names hnames => ?_, points, bytes, hrender, hencode, hopens.readFile_put bytes⟩
    exact isDirectory_mono (persists_put_file hopens.noDirectory bytes)
      (isDirectory_of_makeDirectories hmade hnames)

/-! ## Dumping a file -/

/-- A dump that returns has built a report, and its file holds the rendering. -/
theorem dumpFile_ends_well {engine : Engine} {job : Job} {directory : Text} {now : Moment}
    {path : Path} (h : (dumpFile engine fs job directory now).2.result = .ok path) :
    path = outputPath job.file directory ∧
      ∃ report text bytes, (buildReport engine fs job now).result = .ok report ∧
        report.render = .ok text ∧ encodeText job.encoding text = .ok bytes ∧
        (dumpFile engine fs job directory now).1.readFile path = .ok bytes := by
  cases hbuilt : (buildReport engine fs job now).result with
  | error error =>
    rw [(dumpFile_of_error hbuilt directory).2] at h
    cases h
  | ok report =>
    obtain ⟨hfiles, hresult⟩ := dumpFile_of_ok hbuilt directory
    have hend := writeReport_ends fs report directory job.encoding
    rw [← hresult, h] at hend
    obtain ⟨hpath, -, _, bytes, hrender, hencode, hread⟩ := hend.of_ok
    obtain ⟨text, htext, rfl⟩ := Report.render_of_loose hrender
    rw [Report.loose, (buildReport_eq_ok hbuilt).1] at hpath
    rw [hfiles]
    exact ⟨hpath, report, text, bytes, rfl, htext, hencode, hread⟩

/-- A dump, whatever comes of it, leaves every location as it is, except that directories on the
path of the output directory may be new and that the report's file may be written. If it fails
before the writing, the file system is the same. If it succeeds, the answer is the report's path,
the path of the output directory leads through directories, and the report's file holds the encoded
report. -/
theorem dumpFile_frame (engine : Engine) (fs : FileSystem) (job : Job) (directory : Text)
    (now : Moment) :
    let target := Path.ofText directory
    let path := outputPath job.file directory
    let dumped := dumpFile engine fs job directory now
    (∀ location, LocationChange fs dumped.1 target path location) ∧
    (∀ error, FailsEarly engine fs job error → dumped.1 = fs ∧ dumped.2.result = .error error) ∧
    ∀ answer, dumped.2.result = .ok answer →
      answer = path ∧
      (∀ names, names <+: target.names →
        dumped.1.isDirectory ⟨target.root, names⟩ = .ok true) ∧
      ∃ report text bytes, (buildReport engine fs job now).result = .ok report ∧
        report.render = .ok text ∧ encodeText job.encoding text = .ok bytes ∧
        dumped.1.readFile path = .ok bytes := by
  intro target path dumped
  have hearly (error : DumpError) (h : FailsEarly engine fs job error) :
      dumped.1 = fs ∧ dumped.2.result = .error error :=
    dumpFile_of_error (buildReport_eq_error_iff.mpr h) directory
  rcases hbuilt : (buildReport engine fs job now).result with error | report
  · obtain ⟨hafter, hresult⟩ := hearly error (buildReport_eq_error_iff.mp hbuilt)
    refine ⟨fun location => .kept (by rw [hafter]), hearly, fun answer hanswer => ?_⟩
    rw [hresult] at hanswer
    cases hanswer
  · have hend := writeReport_ends fs report directory job.encoding
    obtain ⟨hafter, hresult⟩ := dumpFile_of_ok hbuilt directory
    rw [← hafter, ← hresult] at hend
    have hfile : report.loose.sourcePath = job.file := (buildReport_eq_ok hbuilt).1
    refine ⟨fun location => ?_, hearly, fun answer hanswer => ?_⟩
    · have hchange := hend.locationChange location
      rwa [hfile] at hchange
    · rw [hanswer] at hend
      obtain ⟨hpath, hdirs, _, bytes, hrender, hencode, hread⟩ := hend.of_ok
      obtain ⟨text, htext, rfl⟩ := Report.render_of_loose hrender
      rw [hfile] at hpath
      rw [hpath] at hread
      exact ⟨hpath, hdirs, report, text, bytes, rfl, htext, hencode, hread⟩

end Dumping

/-- A file `x.js` in the root directory, where the program works. -/
def filesWithSource : FileSystem :=
  { entries := [(["x.js".toList], .file [0x78])]
    workingDirectory := [] }

/-- The job to dump that file. -/
def sourceJob : Job := ⟨"x.js".toList, none, "utf-8".toList, [' ']⟩

/-- The last millisecond of a year. -/
def newYearsEve : Moment := ⟨⟨⟨1999, 12, 31⟩, 23, 59, 59, 999000⟩, some (.fixed 0)⟩

open SmallSystem in
/-- An output directory with two dots in it: the directory before them is made as well. -/
theorem dumpFile_frame_dots :
    let dumped := dumpFile (fun _ _ => ['x']) filesWithSource sourceJob "a/../b".toList newYearsEve
    dumped.2.result = .ok (outputPath sourceJob.file "a/../b".toList) ∧
      dumped.1.isDirectory (Path.ofText ['a']) = .ok true ∧
      dumped.1.isDirectory (Path.ofText "a/../b".toList) = .ok true ∧
      ∃ bytes, dumped.1.readFile (outputPath sourceJob.file "a/../b".toList) = .ok bytes := by
  intro dumped
  have hresult : dumped.2.result = .ok (outputPath sourceJob.file "a/../b".toList) := rfl
  obtain ⟨-, -, hdone⟩ := dumpFile_frame (fun _ _ => ['x']) filesWithSource sourceJob
    "a/../b".toList newYearsEve
  obtain ⟨-, hdirs, -, -, bytes, -, -, -, hread⟩ := hdone _ hresult
  have hfirst : [['a']] <+: (Path.ofText "a/../b".toList).names := ⟨[upward, ['b']], rfl⟩
  exact ⟨hresult, hdirs _ hfirst, hdirs _ List.prefix_rfl, bytes, hread⟩

end SyntaxReport
