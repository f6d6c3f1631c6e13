import SyntaxReport.Proofs.Dump.Frame
import SyntaxReport.Proofs.Dump.Source
import SyntaxReport.Proofs.Encoding.Repertoire

/-!
# Dumping a file again

Nothing that a dump writes is read by the next one, unless the report lies over its source. So a
dump that succeeds can be made again at any time that has a time stamp, and leaves what it would
have left at once: the earlier report is replaced, and only the time stamp is another.

Results:
* `writeReport_again`: a report that is written over an earlier one, on the same file.
* `buildReport_at`: at another time the same report is built, but for the time.
* `dumpFile_again`: both together, for a dump.
-/

namespace SyntaxReport

open Calendar (Moment)
open FileSystem

variable {fs made : FileSystem} {report later : Report} {directory encoding text : Text}
  {location : Location} {bytes : Bytes}

section Repeating

variable [Codecs]

/-! ## Writing a report over an earlier one -/

omit [Codecs] in
theorem Report.exists_timestamp (h : report.render = .ok text) :
    ∃ stamp : Text, timestamp report.parsedAt = .ok stamp ∧
      text = renderingAt report.sourcePath report.treeText stamp := by
  obtain ⟨reading, hreading, rfl⟩ := Report.render_eq_ok h
  exact ⟨reading.stamp, timestamp_eq_ok_iff.mpr ⟨reading, hreading, rfl⟩, rfl⟩

omit [Codecs] in
/-- Time stamps differ in their digits only. -/
theorem anyDigit_timestamp {first second : Moment} {earlier stamp : Text}
    (hearlier : timestamp first = .ok earlier) (hstamp : timestamp second = .ok stamp) :
    earlier.points.map CodePoint.anyDigit = stamp.points.map CodePoint.anyDigit := by
  obtain ⟨old, -, rfl⟩ := timestamp_eq_ok_iff.mp hearlier
  obtain ⟨new, -, rfl⟩ := timestamp_eq_ok_iff.mp hstamp
  exact Calendar.DateTime.anyDigit_stamp old new

/-- With another time stamp a rendering can be encoded as well. -/
theorem exists_encodeText_renderingAt {file tree earlier stamp : Text}
    (hdigits : earlier.points.map CodePoint.anyDigit = stamp.points.map CodePoint.anyDigit)
    (h : encodeText encoding (renderingAt file tree earlier) = .ok bytes) :
    ∃ more, encodeText encoding (renderingAt file tree stamp) = .ok more := by
  refine exists_encodePoints_of_digits ?_ h
  unfold renderingAt heading
  simp only [Text.points, List.map_append] at hdigits ⊢
  rw [hdigits]

/-- What has been written can be written over, without making any directory. -/
theorem Written.over (h : Written fs report directory encoding made location text bytes)
    (hpath : later.sourcePath = report.sourcePath) {other : Text} {more : Bytes}
    (hrender : later.render = .ok other) (hencode : encodeText encoding other = .ok more) :
    Written (made.put location (.file bytes)) later directory encoding
      (made.put location (.file bytes)) location other more where
  made_eq := by
    have hdir := isDirectory_of_makeDirectories h.made_eq List.prefix_rfl
    have hpersists := persists_put_file h.opensAt.noDirectory bytes
    exact makeDirectories_of_isDirectory (isDirectory_mono hpersists hdir)
  render_eq := hrender
  name_eq := h.name_eq
  opensAt := hpath ▸ h.opensAt.put bytes
  encode_eq := hencode

/-- A report on the same file with the same tree is written over an earlier one as if that were not
there. -/
theorem writeReport_again {path : Path} {stamp : Text}
    (h : (writeReport fs report directory encoding).2 = .ok path)
    (hpath : later.sourcePath = report.sourcePath) (htree : later.treeText = report.treeText)
    (hstamp : timestamp later.parsedAt = .ok stamp) :
    writeReport (writeReport fs report directory encoding).1 later directory encoding =
        writeReport fs later directory encoding ∧
      (writeReport fs later directory encoding).2 = .ok path := by
  obtain ⟨rfl, made, location, text, bytes, hwritten⟩ := writeReport_eq_ok_iff.mp h
  have hrender := later.render_of_timestamp hstamp
  obtain ⟨earlier, hearlier, rfl⟩ := Report.exists_timestamp hwritten.render_eq
  obtain ⟨more, hencode⟩ :=
    exists_encodeText_renderingAt (anyDigit_timestamp hearlier hstamp) hwritten.encode_eq
  rw [← hpath, ← htree] at hencode
  have hover := hwritten.over hpath hrender hencode
  have hlater : Written fs later directory encoding made location _ more :=
    ⟨hwritten.made_eq, hrender, hwritten.name_eq, hpath ▸ hwritten.opensAt, hencode⟩
  rw [hwritten.writeReport_eq, hover.writeReport_eq, hlater.writeReport_eq, put_put, hpath]
  exact ⟨rfl, rfl⟩

/-! ## Building a report at another time -/

variable {engine : Engine} {job : Job}

/-- Where the source reads the same, the same report is built. -/
theorem buildReport_congr {after : FileSystem}
    (h : readSource after job.file job.encoding = readSource fs job.file job.encoding)
    (now : Moment) : buildReport engine after job now = buildReport engine fs job now := by
  rw [buildReport_eq, buildReport_eq, h]

/-- At another time the report tells that time, and is the same otherwise. -/
theorem buildReport_at {first : Moment} (h : (buildReport engine fs job first).result = .ok report)
    (second : Moment) :
    (buildReport engine fs job second).result = .ok { report with parsedAt := second } := by
  have hend := buildReport_ends engine fs job first
  generalize buildReport engine fs job first = attempt at h hend
  cases hend with
  | built hread hfind hlayout =>
    obtain rfl := Except.ok.inj h
    simp only [buildReport_eq, parseSource_points, parseText, hread, hfind, hlayout]
  | unread _ | unknownLanguage _ _ | unparsable _ _ _ | unbalanced _ _ _ => cases h

theorem readSource_of_not_writesOver {now : Moment} (h : ¬WritesOver fs job.file directory)
    (encoding : Text) :
    readSource (dumpFile engine fs job directory now).1 job.file encoding =
      readSource fs job.file encoding := by
  simp only [readSource, readFile_source_of_not h]

/-- Where the same report is built and written, the same dump is made. -/
theorem dumpFile_congr {after : FileSystem} {now : Moment}
    (hbuild : buildReport engine after job now = buildReport engine fs job now)
    (hbuilt : (buildReport engine fs job now).result = .ok report)
    (hwrite : writeReport after report directory job.encoding =
      writeReport fs report directory job.encoding) :
    dumpFile engine after job directory now = dumpFile engine fs job directory now := by
  simp only [dumpFile_eq, hbuild, hbuilt, hwrite]

/-! ## Dumping again -/

/-- A dump that succeeds leaves the rendering of its report, with its time stamp, in the file. -/
theorem rendering_of_dumped {now : Moment} {path : Path}
    (h : (dumpFile engine fs job directory now).2.result = .ok path) :
    ∃ tree stamp bytes, (buildReport engine fs job now).result = .ok ⟨job.file, now, tree⟩ ∧
      timestamp now = .ok stamp ∧
      encodeText job.encoding (renderingAt job.file tree stamp) = .ok bytes ∧
      (dumpFile engine fs job directory now).1.readFile path = .ok bytes := by
  obtain ⟨-, report, text, bytes, hbuilt, hrender, hencode, hread⟩ := dumpFile_ends_well h
  obtain ⟨hfile, hat, -⟩ := buildReport_eq_ok hbuilt
  obtain ⟨file, moment, tree⟩ := report
  obtain rfl : file = job.file := hfile
  obtain rfl : moment = now := hat
  obtain ⟨stamp, hstamp, rfl⟩ := Report.exists_timestamp hrender
  exact ⟨tree, stamp, bytes, hbuilt, hstamp, hencode, hread⟩

/-- A dump that succeeds, and does not write over its source, can be made again at any time that has
a time stamp. It then answers, logs and leaves what it would have answered, logged and left at that
time without the first; and the renderings that the report's file holds in turn are the same but for
the time stamps. -/
theorem dumpFile_again (engine : Engine) (fs : FileSystem) (job : Job) (directory : Text)
    (first second : Moment) {path : Path} {stamp : Text}
    (hfirst : (dumpFile engine fs job directory first).2.result = .ok path)
    (hsource : ¬WritesOver fs job.file directory) (hstamp : timestamp second = .ok stamp) :
    let once := dumpFile engine fs job directory first
    let twice := dumpFile engine once.1 job directory second
    twice.2.result = .ok path ∧ twice = dumpFile engine fs job directory second ∧
      ∃ tree earlier old new,
        timestamp first = .ok earlier ∧
        (buildReport engine fs job first).result = .ok ⟨job.file, first, tree⟩ ∧
        (buildReport engine once.1 job second).result = .ok ⟨job.file, second, tree⟩ ∧
        encodeText job.encoding (renderingAt job.file tree earlier) = .ok old ∧
        encodeText job.encoding (renderingAt job.file tree stamp) = .ok new ∧
        once.1.readFile path = .ok old ∧ twice.1.readFile path = .ok new := by
  intro once twice
  obtain ⟨tree, earlier, old, hbuilt, hearlier, hold, hread⟩ := rendering_of_dumped hfirst
  obtain ⟨hfiles, hresult⟩ := dumpFile_of_ok hbuilt directory
  -- The source reads as before, so the same report is built, but for the time.
  have hbuild : buildReport engine once.1 job second = buildReport engine fs job second :=
    buildReport_congr (readSource_of_not_writesOver hsource job.encoding) second
  have hlater := buildReport_at hbuilt second
  -- It is written over the first one as it would be written without that.
  have hpath : (Report.mk job.file second tree).sourcePath = job.file := rfl
  obtain ⟨hover, hwrite⟩ := writeReport_again (hresult.symm.trans hfirst) hpath rfl hstamp
  rw [← hfiles] at hover
  have htwice : twice = dumpFile engine fs job directory second :=
    dumpFile_congr hbuild hlater hover
  have hdone : (dumpFile engine fs job directory second).2.result = .ok path :=
    (dumpFile_of_ok hlater directory).2.trans hwrite
  obtain ⟨same, stamp', new, hbuilt', hstamp', hnew, hread'⟩ := rendering_of_dumped hdone
  obtain rfl := Except.ok.inj (hstamp.symm.trans hstamp')
  obtain rfl : tree = same := congrArg Report.treeText (Except.ok.inj (hlater.symm.trans hbuilt'))
  rw [htwice, hbuild]
  exact ⟨hdone, rfl, tree, earlier, old, new, hearlier, hbuilt, hlater, hold, hnew, hread, hread'⟩

end Repeating

/-- The report on the source `x.js` is another file. -/
theorem not_writesOver_source : ¬WritesOver filesWithSource sourceJob.file "a/../b".toList := by
  rintro ⟨location, ⟨made, hmade, hopens⟩, hlocate⟩
  have hopens' : made.OpensAt (outputPath sourceJob.file "a/../b".toList)
      ["x.txt".toList, "b".toList] := by
    obtain rfl := (Prod.mk.inj hmade).1
    exact ⟨⟨_, rfl, rfl⟩, by decide, fun _ => by decide⟩
  have hsource : filesWithSource.locate (Path.ofText sourceJob.file) = .ok ["x.js".toList] := rfl
  obtain rfl := hopens.unique hopens'
  have hsame := Except.ok.inj (hsource.symm.trans hlocate)
  exact absurd hsame (by decide)

/-- An hour later, on a clock that is two hours ahead of universal time. -/
def newYearsDay : Moment := ⟨⟨⟨2000, 1, 1⟩, 2, 59, 59, 999999⟩, some (.fixed 7200000000)⟩

open SmallSystem in
/-- A dump on New Year's Eve, made again on the next day: the report's file is another. -/
theorem dumpFile_again_nextDay :
    let path := outputPath sourceJob.file "a/../b".toList
    let once := dumpFile (fun _ t => t) filesWithSource sourceJob "a/../b".toList newYearsEve
    let twice := dumpFile (fun _ t => t) once.1 sourceJob "a/../b".toList newYearsDay
    twice.2.result = .ok path ∧
      twice = dumpFile (fun _ t => t) filesWithSource sourceJob "a/../b".toList newYearsDay ∧
      once.1.readFile path ≠ twice.1.readFile path := by
  intro path once twice
  have hfirst : once.2.result = .ok path := rfl
  have hstamp : timestamp newYearsDay = .ok "2000-01-01T00:59:59.999Z".toList := rfl
  have hagain := dumpFile_again (fun _ t => t) filesWithSource sourceJob "a/../b".toList
    newYearsEve newYearsDay hfirst not_writesOver_source hstamp
  exact ⟨hagain.1, hagain.2.1, by decide +kernel⟩

end SyntaxReport
