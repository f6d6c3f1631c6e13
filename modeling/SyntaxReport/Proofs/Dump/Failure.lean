import SyntaxReport.Proofs.Dump.Phases

/-!
# What a failed dump leaves behind

A dump that fails leaves every file as it was, with one exception. The report's file is opened
before the text is encoded, and opening empties it: if the encoding lacks a character of the report,
or is unknown, an earlier report is lost, or an empty file is new.

Results:
* `readSource_eq_error`, `faults_of_buildReport`: the failures of the phases before anything is
  written.
* `sameFiles_of_failure_iff`: exactly when a failure leaves the files as they were.
* `overwrite_loses_report`: an earlier report that does not survive.
-/

namespace SyntaxReport

open Calendar (Moment)
open FileSystem

section Failures

variable [Codecs]

/-! ## Failures before the writing phase -/

/-- Reading fails on the path, on the name of the encoding, or on the bytes. -/
theorem readSource_eq_error {fs : FileSystem} {file encoding : Text} {error : DumpError}
    (h : readSource fs file encoding = .error error) :
    (∃ refusal, error = .refused refusal) ∨ error = .nullInEncoding ∨
      (∃ fault, error = .noEncoding fault encoding) ∨ ∃ failed, error = .undecodable failed := by
  unfold readSource at h
  rcases hname : checkEncodingName encoding with null | _
  · obtain rfl := eq_nullInEncoding_of_checkEncodingName hname
    simp only [hname, Except.error.injEq] at h
    exact .inr (.inl h.symm)
  rcases hread : fs.readFile (Path.ofText file) with fault | bytes
  · simp only [hname, hread, Except.error.injEq] at h
    exact .inl ⟨_, h.symm⟩
  simp only [hname, hread] at h
  unfold decodeBytes at h
  rcases hfound : findCodec encoding with missing | codec
  · simp only [hfound, Except.map, Except.error.injEq] at h
    exact .inr (.inr (.inl (h ▸ eq_noEncoding_of_findCodec hfound)))
  rcases hdecode : codec.decode bytes with failed | points
  · simp only [hfound, hdecode, Except.map, Except.mapError, Except.error.injEq] at h
    exact .inr (.inr (.inr ⟨_, h.symm⟩))
  · simp [hfound, hdecode, Except.map, Except.mapError] at h

/-- What can be wrong before the writing: the path, the name of the encoding, the bytes, the name of
the language, the source, or the serialized tree. -/
theorem faults_of_buildReport {engine : Engine} {fs : FileSystem} {job : Job} {now : Moment}
    {error : DumpError} (h : (buildReport engine fs job now).result = .error error) :
    (∃ refusal, error = .refused refusal) ∨ error = .nullInEncoding ∨
      (∃ fault, error = .noEncoding fault job.encoding) ∨ (∃ failed, error = .undecodable failed) ∨
      (∃ name, error = .unknownLanguage name) ∨ (∃ failed, error = .unparsable failed) ∨
      ∃ offset, error = .unmatchedClose offset := by
  cases buildReport_eq_error_iff.mp h with
  | reading hread =>
    obtain hpath | hnull | hname | hbytes := readSource_eq_error hread
    · exact .inl hpath
    · exact .inr (.inl hnull)
    · exact .inr (.inr (.inl hname))
    · exact .inr (.inr (.inr (.inl hbytes)))
  | language _ hfind =>
    unfold Language.find at hfind
    split at hfind
    · cases hfind
    · exact .inr (.inr (.inr (.inr (.inl ⟨_, (Except.error.inj hfind).symm⟩))))
  | unparsable _ _ _ herror => exact .inr (.inr (.inr (.inr (.inr (.inl ⟨_, herror⟩)))))
  | layout _ _ hlayout =>
    unfold layoutTree at hlayout
    split at hlayout
    · exact .inr (.inr (.inr (.inr (.inr (.inr ⟨_, (Except.error.inj hlayout).symm⟩)))))
    · cases hlayout

/-- Before anything is written, nothing is encoded. -/
theorem buildReport_eq_error {engine : Engine} {fs : FileSystem} {job : Job} {now : Moment}
    {error : DumpError} (h : (buildReport engine fs job now).result = .error error) :
    ¬∃ failed, error = .unencodable failed := by
  rintro ⟨failed, rfl⟩
  simpa using faults_of_buildReport h

/-- If a name is that of no encoding, then it is that of the job. -/
theorem encoding_of_buildReport_eq_error {engine : Engine} {fs : FileSystem} {job : Job}
    {now : Moment} {fault : NameFault} {name : Text}
    (h : (buildReport engine fs job now).result = .error (.noEncoding fault name)) :
    name = job.encoding := by
  simpa using faults_of_buildReport h

/-- A file that is there cannot be read for the name of the encoding if and only if no codec is
found under it. -/
theorem readSource_eq_noEncoding_iff {fs : FileSystem} {file encoding name : Text}
    {fault : NameFault} {bytes : Bytes} (hread : fs.readFile (Path.ofText file) = .ok bytes) :
    readSource fs file encoding = .error (.noEncoding fault name) ↔
      checkEncodingName encoding = .ok () ∧ findCodec encoding = .error (.noEncoding fault name) := by
  unfold readSource
  dsimp only
  rw [hread]
  rcases hname : checkEncodingName encoding with null | _
  · obtain rfl := eq_nullInEncoding_of_checkEncodingName hname
    simp
  rcases hfound : findCodec encoding with missing | codec
  · simp [decodeBytes, hfound, Except.map]
  · rcases hdecode : codec.decode bytes with failed | points
    · simp [decodeBytes, hfound, hdecode, Except.map, Except.mapError]
    · simp [decodeBytes, hfound, hdecode, Except.map, Except.mapError]

/-- A report cannot be built for its encoding's name if and only if its source cannot be read for
it. -/
theorem buildReport_eq_noEncoding_iff {engine : Engine} {fs : FileSystem} {job : Job} {now : Moment}
    {fault : NameFault} {name : Text} :
    (buildReport engine fs job now).result = .error (.noEncoding fault name) ↔
      readSource fs job.file job.encoding = .error (.noEncoding fault name) := by
  rw [buildReport_eq_error_iff]
  refine ⟨fun h => ?_, .reading⟩
  cases h with
  | reading hread => exact hread
  | language _ hfind =>
    unfold Language.find at hfind
    split at hfind <;> cases hfind
  | unparsable _ _ _ herror => cases herror
  | layout _ _ hlayout =>
    unfold layoutTree at hlayout
    split at hlayout <;> cases hlayout

/-- A dump fails for the name if and only if the report cannot be built for it. -/
theorem dumpFile_eq_noEncoding_iff {engine : Engine} {fs : FileSystem} {job : Job}
    {directory : Text} {now : Moment} {fault : NameFault} {name : Text} :
    (dumpFile engine fs job directory now).2.result = .error (.noEncoding fault name) ↔
      readSource fs job.file job.encoding = .error (.noEncoding fault name) := by
  rw [← @buildReport_eq_noEncoding_iff _ engine fs job now]
  cases hbuilt : (buildReport engine fs job now).result with
  | error error =>
    rw [(dumpFile_of_error hbuilt directory).2, Except.error.injEq, Except.error.injEq]
  | ok report =>
    refine iff_of_false (fun h => ?_) (fun h => by cases h)
    -- The source has been read, so the name is that of an encoding.
    obtain ⟨-, -, source, hread⟩ := buildReport_eq_ok hbuilt
    obtain ⟨-, codec, hfound⟩ := findCodec_of_readSource hread
    have hend := writeReport_ends fs report directory job.encoding
    rw [← (dumpFile_of_ok hbuilt directory).2, h] at hend
    obtain ⟨failed, hfailed⟩ := (hend.isOfEncoding_iff hfound).mp (.inl ⟨fault, name, rfl⟩)
    cases hfailed

theorem encoding_of_dumpFile_eq_error {engine : Engine} {fs : FileSystem} {job : Job}
    {directory : Text} {now : Moment} {fault : NameFault} {name : Text}
    (h : (dumpFile engine fs job directory now).2.result = .error (.noEncoding fault name)) :
    name = job.encoding := by
  have hread := dumpFile_eq_noEncoding_iff.mp h
  simpa using readSource_eq_error hread

/-! ## Files after a failure -/

/-- If writing a report fails, the files are as they were, unless the failure is one of encoding:
then the report's file is empty. If a dump fails, the same holds, and the failure of encoding can
only be that of a character. -/
theorem sameFiles_of_failure_iff (engine : Engine) (fs : FileSystem) (report : Report) (job : Job)
    (directory encoding : Text) (now : Moment) (error : DumpError) :
    let made := (fs.makeDirectories (Path.ofText directory)).1
    ((writeReport fs report directory encoding).2 = .error error →
      let path := outputPath report.sourcePath directory
      let after := (writeReport fs report directory encoding).1
      (SameFiles fs after ↔ (error.IsOfEncoding → made.readFile path = .ok [])) ∧
        (error.IsOfEncoding → after.readFile path = .ok [])) ∧
    ((dumpFile engine fs job directory now).2.result = .error error →
      let path := outputPath job.file directory
      let after := (dumpFile engine fs job directory now).1
      (SameFiles fs after ↔
          ((∃ failed, error = .unencodable failed) → made.readFile path = .ok [])) ∧
        ((∃ failed, error = .unencodable failed) → after.readFile path = .ok [])) := by
  intro made
  constructor
  · intro hfailed path after
    have hend := writeReport_ends fs report directory encoding
    rw [hfailed] at hend
    exact ⟨hend.sameFiles_iff, hend.readFile_of_isOfEncoding⟩
  · intro hfailed path after
    rcases hbuilt : (buildReport engine fs job now).result with failure | built
    · obtain ⟨hafter, hresult⟩ := dumpFile_of_error hbuilt directory
      obtain rfl := Except.error.inj (hresult.symm.trans hfailed)
      have hnone := buildReport_eq_error hbuilt
      have hsame : SameFiles fs after := hafter ▸ .refl fs
      exact ⟨iff_of_true hsame fun h => absurd h hnone, fun h => absurd h hnone⟩
    · obtain ⟨hafter, hresult⟩ := dumpFile_of_ok hbuilt directory
      obtain ⟨hfile, -, source, hread⟩ := buildReport_eq_ok hbuilt
      obtain ⟨-, codec, hfound⟩ := findCodec_of_readSource hread
      have hend := writeReport_ends fs built directory job.encoding
      have hfile : built.loose.sourcePath = job.file := hfile
      rw [← hresult, ← hafter, hfailed] at hend
      have hiff := hend.isOfEncoding_iff hfound
      have hsame := hend.sameFiles_iff
      rw [hiff, hfile] at hsame
      refine ⟨hsame, fun h => ?_⟩
      have hempty := hend.readFile_of_isOfEncoding (hiff.mpr h)
      rwa [hfile] at hempty

end Failures

/-! ## A report that is lost -/

/-- A source file `a.js`, and a directory `o` with an earlier report on it. -/
def filesWithReport : FileSystem :=
  { entries :=
      [(["a.js".toList], .file [0x31]), (["o".toList], .directory),
        (["a.txt".toList, "o".toList], .file [0x6F, 0x6C, 0x64])]
    workingDirectory := [] }

/-- A morning in October. -/
def october : Moment := ⟨⟨⟨2026, 10, 16⟩, 8, 30, 0, 123000⟩, some (.fixed 0)⟩

/-- A report on `a.js` with a tree text that is not ASCII. -/
def accentedReport : Report := ⟨"a.js".toList, october, ['é']⟩

/-- The failure of writing that report in ASCII. -/
def accentFailure : DumpError :=
  .unencodable (.missing .ascii (.char 'é') 48 49 (.outOfRange 128))

/-- The job that comes to that report if the engine answers with its tree text. -/
def accentedJob : Job := ⟨"a.js".toList, none, "ascii".toList, []⟩

open SmallSystem in
/-- Writing fails, and the earlier report is gone. -/
theorem overwrite_loses_report :
    (writeReport filesWithReport accentedReport ['o'] "ascii".toList).2 = .error accentFailure ∧
      ¬SameFiles filesWithReport
        (writeReport filesWithReport accentedReport ['o'] "ascii".toList).1 := by
  refine ⟨rfl, fun hsame => ?_⟩
  have hlost := (hsame ["a.txt".toList, "o".toList] [0x6F, 0x6C, 0x64]).mpr (by decide +kernel)
  exact absurd hlost (by decide +kernel)

open SmallSystem in
/-- The two failures over an earlier report, for writing and for dumping. -/
theorem sameFiles_of_failure_iff_accent :
    let written := writeReport filesWithReport accentedReport ['o'] "ascii".toList
    let dumped := dumpFile (fun _ _ => ['é']) filesWithReport accentedJob ['o'] october
    (written.2 = .error accentFailure ∧ ¬SameFiles filesWithReport written.1) ∧
      (dumped.2.result = .error accentFailure ∧ ¬SameFiles filesWithReport dumped.1) := by
  intro written dumped
  have hwritten : written.2 = .error accentFailure := rfl
  have hdumped : dumped.2.result = .error accentFailure := rfl
  have hfull : (filesWithReport.makeDirectories (Path.ofText ['o'])).1.readFile
      (outputPath "a.js".toList ['o']) = .ok [0x6F, 0x6C, 0x64] := rfl
  obtain ⟨hwrite, hdump⟩ := sameFiles_of_failure_iff (fun _ _ => ['é']) filesWithReport
    accentedReport accentedJob ['o'] "ascii".toList october accentFailure
  refine ⟨⟨hwritten, ?_⟩, hdumped, ?_⟩
  · rw [(hwrite hwritten).1]
    exact fun hempty => absurd (hfull.symm.trans (hempty (.inr ⟨_, rfl⟩))) (by simp)
  · rw [(hdump hdumped).1]
    exact fun hempty => absurd (hfull.symm.trans (hempty ⟨_, rfl⟩)) (by simp)

end SyntaxReport
