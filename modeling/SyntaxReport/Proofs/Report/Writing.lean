import SyntaxReport.Proofs.FileSystem.Directories
import SyntaxReport.Report.Store

/-!
# How writing a report ends

Writing a report goes through four phases: the directory is made, the report is rendered, its file
is opened, and the rendering is encoded. `WriteEnd` lists the ways in which this ends, each with the
file system that it leaves.

Results:
* `writeLoose_ends`, `writeReport_ends`: there are no other ways.
* `WriteEnd.persists`: none of them takes anything away.
* `WriteEnd.sameFiles_iff`: which failures leave the files as they were.
* `WriteEnd.lookup_file_iff`, `WriteEnd.lookup_eq`: what becomes of other files, and of the
  report's.
* `writeReport_eq_ok_iff`: when a report is written, and the file system then.
-/

namespace SyntaxReport

open FileSystem

variable [Codecs]

/-- The ways in which writing a report ends: the file system afterwards, and the answer. -/
inductive WriteEnd (fs : FileSystem) (report : LooseReport) (directory encoding : Text) :
    FileSystem → Except DumpError Path → Prop
  /-- The directory cannot be made; some of those above it may have been. -/
  | directoryRefused {made : FileSystem} {refusal : Refusal} :
      fs.makeDirectories (Path.ofText directory) = (made, .error refusal) →
      WriteEnd fs report directory encoding made (.error (.refused refusal))
  /-- The moment of the report has no time stamp. -/
  | notRendered {made : FileSystem} {error : DumpError} :
      fs.makeDirectories (Path.ofText directory) = (made, .ok ()) →
      report.render = .error error →
      WriteEnd fs report directory encoding made (.error error)
  /-- The name of the encoding can be none. -/
  | notNamed {made : FileSystem} {points : Points} {error : DumpError} :
      fs.makeDirectories (Path.ofText directory) = (made, .ok ()) →
      report.render = .ok points →
      checkEncodingName encoding = .error error →
      WriteEnd fs report directory encoding made (.error error)
  /-- The file cannot be opened. -/
  | notOpened {made : FileSystem} {points : Points} {fault : SystemFault} :
      fs.makeDirectories (Path.ofText directory) = (made, .ok ()) →
      report.render = .ok points →
      checkEncodingName encoding = .ok () →
      made.openFile (outputPath report.sourcePath directory) = .error fault →
      WriteEnd fs report directory encoding made
        (.error (.refused ⟨fault, outputPath report.sourcePath directory⟩))
  /-- The rendering cannot be encoded; the file has been emptied. -/
  | notEncoded {made : FileSystem} {points : Points} {location : Location} {error : DumpError} :
      fs.makeDirectories (Path.ofText directory) = (made, .ok ()) →
      report.render = .ok points →
      checkEncodingName encoding = .ok () →
      made.OpensAt (outputPath report.sourcePath directory) location →
      encodePoints encoding points = .error error →
      WriteEnd fs report directory encoding (made.put location (.file [])) (.error error)
  /-- The report is written. -/
  | written {made : FileSystem} {points : Points} {location : Location} {bytes : Bytes} :
      fs.makeDirectories (Path.ofText directory) = (made, .ok ()) →
      report.render = .ok points →
      checkEncodingName encoding = .ok () →
      made.OpensAt (outputPath report.sourcePath directory) location →
      encodePoints encoding points = .ok bytes →
      WriteEnd fs report directory encoding (made.put location (.file bytes))
        (.ok (outputPath report.sourcePath directory))

omit [Codecs] in
theorem parent_outputPath (source directory : Text) :
    (outputPath source directory).parent = Path.ofText directory := by
  simp [outputPath, Path.child, Path.parent]

/-- The rendering of a report on a file that has the given tree and time stamp. -/
def renderingAt (file tree stamp : Text) : Text :=
  heading file stamp ++ tree

omit [Codecs] in
theorem Report.render_of_timestamp {report : Report} {stamp : Text}
    (h : timestamp report.parsedAt = .ok stamp) :
    report.render = .ok (renderingAt report.sourcePath report.treeText stamp) := by
  rw [render, h]
  rfl

omit [Codecs] in
/-- A rendering holds the path, a time stamp and the tree. -/
theorem Report.render_eq_ok {report : Report} {text : Text} (h : report.render = .ok text) :
    ∃ reading, report.parsedAt.universal? = some reading ∧
      text = heading report.sourcePath reading.stamp ++ report.treeText := by
  unfold render at h
  cases hstamp : timestamp report.parsedAt with
  | error error =>
    rw [hstamp] at h
    cases h
  | ok stamp =>
    rw [hstamp] at h
    obtain rfl := Except.ok.inj h
    obtain ⟨reading, hreading, rfl⟩ := timestamp_eq_ok_iff.mp hstamp
    exact ⟨reading, hreading, rfl⟩

omit [Codecs] in
/-- A tree that is text makes the rendering a text. -/
theorem Report.render_loose (report : Report) :
    report.loose.render = report.render.map Text.points := by
  unfold LooseReport.render render
  show (timestamp report.parsedAt).map _ = _
  cases timestamp report.parsedAt with
  | error error => rfl
  | ok stamp =>
    show Except.ok ((heading report.sourcePath stamp).points ++ report.treeText.points) =
      Except.ok (heading report.sourcePath stamp ++ report.treeText).points
    rw [Text.points, Text.points, Text.points, List.map_append]

omit [Codecs] in
theorem Report.render_of_loose {report : Report} {points : Points}
    (h : report.loose.render = .ok points) :
    ∃ text, report.render = .ok text ∧ points = text.points := by
  rw [render_loose] at h
  cases hrender : report.render with
  | error error =>
    rw [hrender] at h
    cases h
  | ok text =>
    rw [hrender] at h
    exact ⟨text, rfl, (Except.ok.inj h).symm⟩

omit [Codecs] in
theorem Report.render_loose_eq_error_iff {report : Report} {error : DumpError} :
    report.loose.render = .error error ↔ report.render = .error error := by
  rw [render_loose]
  cases report.render <;> simp [Except.map]

/-- Writing a report ends in one of these ways. -/
theorem writeLoose_ends (fs : FileSystem) (report : LooseReport) (directory encoding : Text) :
    WriteEnd fs report directory encoding (writeLoose fs report directory encoding).1
      (writeLoose fs report directory encoding).2 := by
  unfold writeLoose
  simp only [parent_outputPath]
  rcases hmade : fs.makeDirectories (Path.ofText directory) with ⟨made, refusal | _⟩
  · exact .directoryRefused hmade
  rcases hrender : report.render with error | points
  · exact .notRendered hmade hrender
  simp only [writePoints]
  rcases hname : checkEncodingName encoding with error | _
  · exact .notNamed hmade hrender hname
  dsimp only
  rcases hopen : made.openFile (outputPath report.sourcePath directory) with fault | ⟨opened, location⟩
  · exact .notOpened hmade hrender hname hopen
  obtain ⟨hopens, rfl⟩ := openFile_eq_ok_iff.mp hopen
  rcases hencode : encodePoints encoding points with error | bytes
  · exact .notEncoded hmade hrender hname hopens hencode
  · dsimp only
    rw [put_put]
    exact .written hmade hrender hname hopens hencode

theorem writeReport_ends (fs : FileSystem) (report : Report) (directory encoding : Text) :
    WriteEnd fs report.loose directory encoding (writeReport fs report directory encoding).1
      (writeReport fs report directory encoding).2 :=
  writeLoose_ends fs report.loose directory encoding

variable {fs after : FileSystem} {report : LooseReport} {directory encoding : Text}
  {result : Except DumpError Path}

/-! ## What a report leaves alone -/

omit [Codecs] in
theorem addsDirectories_of_makeDirectories {made : FileSystem} {path : Path}
    {answer : Except Refusal Unit} (h : fs.makeDirectories path = (made, answer)) :
    AddsDirectories fs made := by
  have hadds := makeDirectories_adds fs path
  rwa [h] at hadds

/-- Writing a report takes nothing away. -/
theorem WriteEnd.persists (h : WriteEnd fs report directory encoding after result) :
    Persists fs after := by
  cases h with
  | directoryRefused hmade | notRendered hmade _ | notNamed hmade _ _ | notOpened hmade _ _ _ =>
    exact (addsDirectories_of_makeDirectories hmade).persists
  | notEncoded hmade _ _ hopens _ | written hmade _ _ hopens _ =>
    exact (addsDirectories_of_makeDirectories hmade).persists.trans
      (persists_put_file hopens.noDirectory _)

/-! ## Failures and files -/

/-- The failure is one of encoding: no codec has the name, or the codec cannot encode the text. -/
def DumpError.IsOfEncoding (error : DumpError) : Prop :=
  (∃ fault name, error = .noEncoding fault name) ∨ ∃ failed, error = .unencodable failed

/-- The name of an encoding that has no codec is what is wrong. -/
theorem eq_noEncoding_of_findCodec {name : Text} {error : DumpError}
    (h : findCodec name = .error error) : ∃ fault, error = .noEncoding fault name := by
  unfold findCodec at h
  split at h
  · cases h
  · split at h
    · exact ⟨.unknown, (Except.error.inj h).symm⟩
    · exact ⟨.notText, (Except.error.inj h).symm⟩
    · cases h

/-- A string is not encoded for want of a codec, or because the codec cannot. -/
theorem encodePoints_eq_error_iff {name : Text} {points : Points} {error : DumpError} :
    encodePoints name points = .error error ↔
      findCodec name = .error error ∨
        ∃ codec failed, findCodec name = .ok codec ∧ codec.encode points = .error failed ∧
          error = .unencodable failed := by
  unfold encodePoints
  rcases findCodec name with missing | codec
  · simp
  · rcases hbytes : codec.encode points with failed | bytes
    · simp [hbytes, Except.mapError, eq_comm]
    · simp [hbytes, Except.mapError]

theorem isOfEncoding_of_encodePoints {name : Text} {points : Points} {error : DumpError}
    (h : encodePoints name points = .error error) : error.IsOfEncoding := by
  obtain hname | ⟨codec, failed, -, -, rfl⟩ := encodePoints_eq_error_iff.mp h
  · obtain ⟨fault, rfl⟩ := eq_noEncoding_of_findCodec hname
    exact .inl ⟨fault, name, rfl⟩
  · exact .inr ⟨failed, rfl⟩

omit [Codecs] in
theorem not_isOfEncoding_refused (refusal : Refusal) :
    ¬(DumpError.refused refusal).IsOfEncoding := by
  simp [DumpError.IsOfEncoding]

omit [Codecs] in
theorem not_isOfEncoding_of_render {error : DumpError} (h : report.render = .error error) :
    ¬error.IsOfEncoding := by
  unfold LooseReport.render at h
  rcases hstamp : timestamp report.parsedAt with failure | stamp
  · rw [hstamp] at h
    obtain rfl := Except.error.inj h
    obtain ⟨-, rfl⟩ := timestamp_eq_error_iff.mp hstamp
    simp [DumpError.IsOfEncoding]
  · rw [hstamp] at h
    cases h

omit [Codecs] in
theorem Report.not_isOfEncoding_of_render {report : Report} {error : DumpError}
    (h : report.render = .error error) : ¬error.IsOfEncoding :=
  SyntaxReport.not_isOfEncoding_of_render (Report.render_loose_eq_error_iff.mpr h)

omit [Codecs] in
theorem eq_nullInEncoding_of_checkEncodingName {name : Text} {error : DumpError}
    (h : checkEncodingName name = .error error) : error = .nullInEncoding := by
  unfold checkEncodingName at h
  split at h
  · exact (Except.error.inj h).symm
  · cases h

omit [Codecs] in
theorem not_isOfEncoding_of_checkEncodingName {name : Text} {error : DumpError}
    (h : checkEncodingName name = .error error) : ¬error.IsOfEncoding := by
  obtain rfl := eq_nullInEncoding_of_checkEncodingName h
  simp [DumpError.IsOfEncoding]

/-- A failure leaves the files as they were, unless it is one of encoding: then the report's file
is empty, and only if it was there before and empty is nothing changed. -/
theorem WriteEnd.sameFiles_iff {error : DumpError}
    (h : WriteEnd fs report directory encoding after (.error error)) :
    SameFiles fs after ↔
      (error.IsOfEncoding →
        (fs.makeDirectories (Path.ofText directory)).1.readFile
          (outputPath report.sourcePath directory) = .ok []) := by
  cases h with
  | directoryRefused hmade | notOpened hmade _ _ _ =>
    have hsame := (addsDirectories_of_makeDirectories hmade).sameFiles
    exact iff_of_true hsame fun hencoding => absurd hencoding (not_isOfEncoding_refused _)
  | notRendered hmade hrender =>
    have hsame := (addsDirectories_of_makeDirectories hmade).sameFiles
    exact iff_of_true hsame fun hencoding => absurd hencoding (not_isOfEncoding_of_render hrender)
  | notNamed hmade _ hname =>
    have hsame := (addsDirectories_of_makeDirectories hmade).sameFiles
    exact iff_of_true hsame fun hencoding =>
      absurd hencoding (not_isOfEncoding_of_checkEncodingName hname)
  | @notEncoded made text location _ hmade hrender _ hopens hencode =>
    have hsame := (addsDirectories_of_makeDirectories hmade).sameFiles
    rw [hmade, hopens.readFile_eq_ok_iff, ← sameFiles_put_iff hopens.noDirectory]
    exact ⟨fun hall _ => hsame.symm.trans hall,
      fun hempty => hsame.trans (hempty (isOfEncoding_of_encodePoints hencode))⟩

/-- A failure of encoding leaves an empty file behind. -/
theorem WriteEnd.readFile_of_isOfEncoding {error : DumpError}
    (h : WriteEnd fs report directory encoding after (.error error))
    (hencoding : error.IsOfEncoding) :
    after.readFile (outputPath report.sourcePath directory) = .ok [] := by
  cases h with
  | directoryRefused _ | notOpened _ _ _ _ => exact absurd hencoding (not_isOfEncoding_refused _)
  | notRendered _ hrender => exact absurd hencoding (not_isOfEncoding_of_render hrender)
  | notNamed _ _ hname => exact absurd hencoding (not_isOfEncoding_of_checkEncodingName hname)
  | notEncoded _ _ _ hopens _ => exact hopens.readFile_put []

/-- With a known encoding, a failure of encoding is about a character. -/
theorem WriteEnd.isOfEncoding_iff {error : DumpError} {codec : Codec}
    (h : WriteEnd fs report directory encoding after (.error error))
    (hfound : findCodec encoding = .ok codec) :
    error.IsOfEncoding ↔ ∃ failed, error = .unencodable failed := by
  refine ⟨fun hencoding => ?_, .inr⟩
  cases h with
  | directoryRefused _ | notOpened _ _ _ _ => exact absurd hencoding (not_isOfEncoding_refused _)
  | notRendered _ hrender => exact absurd hencoding (not_isOfEncoding_of_render hrender)
  | notNamed _ _ hname => exact absurd hencoding (not_isOfEncoding_of_checkEncodingName hname)
  | notEncoded _ _ _ _ hencode =>
    obtain hmissing | ⟨-, failed, -, -, rfl⟩ := encodePoints_eq_error_iff.mp hencode
    · rw [hfound] at hmissing
      cases hmissing
    · exact ⟨failed, rfl⟩

/-! ## The report's file -/

/-- The output directory can be made, and then the report on the source is opened at the
location. -/
def OpensReportAt (fs : FileSystem) (source directory : Text) (location : Location) : Prop :=
  ∃ made, fs.makeDirectories (Path.ofText directory) = (made, .ok ()) ∧
    made.OpensAt (outputPath source directory) location

/-- The bytes that the report's file has in the end: none of them if the text cannot be encoded.
Without a time stamp, or with a name that can be no encoding's, the file is not even opened. -/
def Report.finalBytes? (report : Report) (encoding : Text) : Option Bytes :=
  match report.render, checkEncodingName encoding with
  | .ok text, .ok () => some ((encodeText encoding text).toOption.getD [])
  | _, _ => none

/-- Files other than the report's are not touched. -/
theorem WriteEnd.lookup_file_iff (h : WriteEnd fs report directory encoding after result)
    {location : Location} (hother : ¬OpensReportAt fs report.sourcePath directory location)
    {content : Bytes} :
    after.lookup location = some (.file content) ↔ fs.lookup location = some (.file content) := by
  cases h with
  | directoryRefused hmade | notRendered hmade _ | notNamed hmade _ _ | notOpened hmade _ _ _ =>
    exact (addsDirectories_of_makeDirectories hmade).sameFiles location content
  | @notEncoded made _ opened _ hmade _ _ hopens _ | @written made _ opened _ hmade _ _ hopens _ =>
    have hne : location ≠ opened := by
      rintro rfl
      exact hother ⟨made, hmade, hopens⟩
    rw [lookup_put _ _ (ne_nil_of_isDirectoryAt_eq_false hopens.noDirectory), if_neg hne]
    exact (addsDirectories_of_makeDirectories hmade).sameFiles location content

omit [Codecs] in
/-- What can be opened once the directories are made was there before, or is not there yet. -/
theorem lookup_eq_of_makeDirectories {made : FileSystem} {path file : Path} {location : Location}
    {answer : Except Refusal Unit} (hmade : fs.makeDirectories path = (made, answer))
    (hopens : made.OpensAt file location) : made.lookup location = fs.lookup location := by
  rcases (addsDirectories_of_makeDirectories hmade).lookup_eq location with heq | ⟨-, hdir⟩
  · exact heq
  · exact absurd hopens.noDirectory (by simp [isDirectoryAt, hdir])

/-- If the report's file can be opened, it holds the report in the end, or what is left of it. -/
theorem WriteEnd.lookup_eq {report : Report}
    (h : WriteEnd fs report.loose directory encoding after result) {location : Location}
    (hopens : OpensReportAt fs report.sourcePath directory location) :
    after.lookup location =
      (report.finalBytes? encoding).elim (fs.lookup location) fun bytes => some (.file bytes) := by
  obtain ⟨made, hmade, hopens⟩ := hopens
  have hne := ne_nil_of_isDirectoryAt_eq_false hopens.noDirectory
  unfold Report.finalBytes?
  cases h with
  | directoryRefused hmade' =>
    rw [hmade] at hmade'
    cases hmade'
  | notOpened hmade' _ _ hopen =>
    obtain rfl := (Prod.mk.inj (hmade.symm.trans hmade')).1
    have hopened := openFile_eq_ok_iff.mpr ⟨hopens, rfl⟩
    cases hopened.symm.trans hopen
  | notRendered hmade' hrender =>
    obtain rfl := (Prod.mk.inj (hmade.symm.trans hmade')).1
    rw [Report.render_loose_eq_error_iff.mp hrender]
    exact lookup_eq_of_makeDirectories hmade hopens
  | notNamed hmade' hrender hname =>
    obtain rfl := (Prod.mk.inj (hmade.symm.trans hmade')).1
    obtain ⟨text, htext, rfl⟩ := Report.render_of_loose hrender
    rw [htext, hname]
    exact lookup_eq_of_makeDirectories hmade hopens
  | notEncoded hmade' hrender hname hopens' hencode | written hmade' hrender hname hopens' hencode =>
    obtain rfl := (Prod.mk.inj (hmade.symm.trans hmade')).1
    obtain rfl := hopens.unique hopens'
    obtain ⟨text, htext, rfl⟩ := Report.render_of_loose hrender
    rw [htext, hname, lookup_put _ _ hne, if_pos rfl]
    simp [encodeText, hencode, Except.toOption]

/-! ## A report that is written -/

variable {report : Report}

/-- All phases of writing a report go well: the directory is made, the report rendered, the name of
the encoding let through, the file opened at the location, and the rendering encoded. -/
structure Written (fs : FileSystem) (report : Report) (directory encoding : Text)
    (made : FileSystem) (location : Location) (text : Text) (bytes : Bytes) : Prop where
  made_eq : fs.makeDirectories (Path.ofText directory) = (made, .ok ())
  render_eq : report.render = .ok text
  name_eq : checkEncodingName encoding = .ok ()
  opensAt : made.OpensAt (outputPath report.sourcePath directory) location
  encode_eq : encodeText encoding text = .ok bytes

/-- Then the report is written. -/
theorem Written.writeReport_eq {made : FileSystem} {location : Location} {text : Text}
    {bytes : Bytes} (h : Written fs report directory encoding made location text bytes) :
    writeReport fs report directory encoding =
      (made.put location (.file bytes), .ok (outputPath report.sourcePath directory)) := by
  have hopen := openFile_eq_ok_iff.mpr ⟨h.opensAt, rfl⟩
  have hencode : encodePoints encoding text.points = .ok bytes := h.encode_eq
  have hsource : report.loose.sourcePath = report.sourcePath := rfl
  unfold writeReport writeLoose writePoints
  simp only [report.render_loose, hsource, parent_outputPath, h.made_eq, h.render_eq, h.name_eq,
    Except.map, hopen, hencode, put_put]

/-- A report is written in no other way. -/
theorem writeReport_eq_ok_iff {path : Path} :
    (writeReport fs report directory encoding).2 = .ok path ↔
      path = outputPath report.sourcePath directory ∧
        ∃ made location text bytes,
          Written fs report directory encoding made location text bytes := by
  constructor
  · intro h
    have hend := writeReport_ends fs report directory encoding
    rw [h] at hend
    generalize (writeReport fs report directory encoding).1 = after at hend
    cases hend with
    | @written made _ location bytes hmade hrender hname hopens hencode =>
      obtain ⟨text, htext, rfl⟩ := Report.render_of_loose hrender
      exact ⟨rfl, made, location, text, bytes, ⟨hmade, htext, hname, hopens, hencode⟩⟩
  · rintro ⟨rfl, made, location, text, bytes, h⟩
    rw [h.writeReport_eq]

end SyntaxReport
