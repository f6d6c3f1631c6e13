import SyntaxReport.Dump.Job
import SyntaxReport.Proofs.Encoding.Failures
import SyntaxReport.Proofs.Encoding.Repertoire
import SyntaxReport.Proofs.Report.Writing

/-!
# How a dump ends

`buildReport` reads, parses and formats, and stops at the first phase that fails; `BuildEnd` lists
its ends, with the log entries and the engine calls of each. `dumpFile` goes on to write the report,
if there is one.

Results:
* `parseSource_points`: a source that is text is given to the engine.
* `buildReport_ends`: there are no other ends.
* `buildReport_eq_error_iff`: which phase fails, and how.
* `dumpFile_of_error`, `dumpFile_of_ok`: a dump is a report that is built and then written.
-/

namespace SyntaxReport

open Calendar (Moment)
open FileSystem

/-- A source has no code point that UTF-8 has not exactly if it is text. -/
theorem encodeError?_utf8_eq_none_iff {source : Points} :
    Encoding.utf8.encodeError? source = none ↔ ∃ t : Text, source = t.points := by
  rw [Encoding.encodeError?_eq_none_iff]
  constructor
  · exact fun h => ⟨source.characters, Encoding.eq_points_of_has h⟩
  · rintro ⟨t, rfl⟩
    exact List.forall_mem_map.mpr fun c _ => ⟨c, rfl⟩

/-- A source that is text is given to the engine. -/
theorem parseSource_points (engine : Engine) (t : Text) (name : Option Text) :
    parseSource engine t.points name = parseText engine t name := by
  rw [parseSource, encodeError?_utf8_eq_none_iff.mpr ⟨t, rfl⟩]
  dsimp only
  rw [Points.characters_points]

/-- Without a language, no source is parsed. -/
theorem parseSource_of_error {engine : Engine} {source : Points} {name : Option Text}
    {error : DumpError} (h : Language.find name = .error error) :
    parseSource engine source name = ⟨.error error, [], []⟩ := by
  rw [parseSource, parseText, h]
  cases Encoding.utf8.encodeError? source <;> rfl

/-- A source that is no text is not parsed. -/
theorem parseSource_of_missing {engine : Engine} {source : Points} {name : Option Text}
    {language : Language} {missing : EncodeError} (h : Language.find name = .ok language)
    (hmissing : Encoding.utf8.encodeError? source = some missing) :
    parseSource engine source name = ⟨.error (.unparsable missing), [], []⟩ := by
  rw [parseSource, hmissing, h]

variable [Codecs]

/-- What is read has passed the check of the encoding's name, and its codec is known. -/
theorem findCodec_of_readSource {fs : FileSystem} {file encoding : Text} {source : Points}
    (h : readSource fs file encoding = .ok source) :
    checkEncodingName encoding = .ok () ∧ ∃ codec, findCodec encoding = .ok codec := by
  unfold readSource at h
  rcases hname : checkEncodingName encoding with error | _
  · simp [hname] at h
  rcases hread : fs.readFile (Path.ofText file) with fault | bytes
  · simp [hname, hread] at h
  rcases hfound : findCodec encoding with error | codec
  · simp [hname, hread, decodeBytes, hfound, Except.map] at h
  · exact ⟨rfl, codec, rfl⟩

/-- Under the name of an encoding of this library, a source that is read is text. -/
theorem exists_text_of_readSource {fs : FileSystem} {file name : Text} {encoding : Encoding}
    {source : Points} (hname : Encoding.ofName? name = some encoding)
    (h : readSource fs file name = .ok source) : ∃ t : Text, source = t.points := by
  unfold readSource at h
  rw [checkEncodingName_of_ofName? hname] at h
  dsimp only at h
  rcases hread : fs.readFile (Path.ofText file) with fault | bytes
  · rw [hread] at h
    cases h
  rw [hread] at h
  dsimp only at h
  obtain ⟨t, htext⟩ | ⟨error, herror, -⟩ := decodeBytes_of_own hname bytes
  · rw [htext] at h
    obtain rfl := Except.ok.inj h
    exact ⟨Text.unifyNewlines t, Points.unifyNewlines_points t⟩
  · rw [herror] at h
    cases h

/-- The ways in which building a report ends. -/
inductive BuildEnd (engine : Engine) (fs : FileSystem) (job : Job) (now : Moment) :
    Attempt Report → Prop
  /-- The file cannot be read, or is not text in the encoding. -/
  | unread {error : DumpError} :
      readSource fs job.file job.encoding = .error error →
      BuildEnd engine fs job now ⟨.error error, [job.readingEntry], []⟩
  /-- No language has the name. -/
  | unknownLanguage {source : Points} {error : DumpError} :
      readSource fs job.file job.encoding = .ok source →
      Language.find (some job.languageName) = .error error →
      BuildEnd engine fs job now ⟨.error error, [job.readingEntry, job.parsingEntry], []⟩
  /-- The source has surrogates, and cannot be given to the engine. -/
  | unparsable {source : Points} {language : Language} {error : EncodeError} :
      readSource fs job.file job.encoding = .ok source →
      Language.find (some job.languageName) = .ok language →
      Encoding.utf8.encodeError? source = some error →
      BuildEnd engine fs job now
        ⟨.error (.unparsable error), [job.readingEntry, job.parsingEntry], []⟩
  /-- The serialized tree has a closing parenthesis without partner. -/
  | unbalanced {source : Text} {language : Language} {error : DumpError} :
      readSource fs job.file job.encoding = .ok source.points →
      Language.find (some job.languageName) = .ok language →
      layoutTree job.indent (engine language source) = .error error →
      BuildEnd engine fs job now
        ⟨.error error,
          [job.readingEntry, job.parsingEntry, Job.formattingEntry (engine language source)],
          [⟨language, source⟩]⟩
  /-- The report is built. -/
  | built {source : Text} {language : Language} {laidOut : Text} :
      readSource fs job.file job.encoding = .ok source.points →
      Language.find (some job.languageName) = .ok language →
      layoutTree job.indent (engine language source) = .ok laidOut →
      BuildEnd engine fs job now
        ⟨.ok ⟨job.file, now, laidOut⟩,
          [job.readingEntry, job.parsingEntry, Job.formattingEntry (engine language source)],
          [⟨language, source⟩]⟩

/-- Building a report ends in one of these ways. -/
theorem buildReport_ends (engine : Engine) (fs : FileSystem) (job : Job) (now : Moment) :
    BuildEnd engine fs job now (buildReport engine fs job now) := by
  rw [buildReport_eq]
  rcases hread : readSource fs job.file job.encoding with error | points
  · exact .unread hread
  dsimp only
  rcases hfind : Language.find (some job.languageName) with error | language
  · rw [parseSource_of_error hfind]
    exact .unknownLanguage hread hfind
  rcases hmissing : Encoding.utf8.encodeError? points with _ | missing
  case some =>
    rw [parseSource_of_missing hfind hmissing]
    exact .unparsable hread hfind hmissing
  obtain ⟨source, rfl⟩ := encodeError?_utf8_eq_none_iff.mp hmissing
  rw [parseSource_points, parseText, hfind]
  dsimp only
  rcases hlayout : layoutTree job.indent (engine language source) with error | laidOut
  · exact .unbalanced hread hfind hlayout
  · exact .built hread hfind hlayout

variable {engine : Engine} {fs : FileSystem} {job : Job} {now : Moment}

theorem dumpFile_of_error {error : DumpError}
    (h : (buildReport engine fs job now).result = .error error) (directory : Text) :
    (dumpFile engine fs job directory now).1 = fs ∧
      (dumpFile engine fs job directory now).2.result = .error error := by
  rw [dumpFile_eq]
  simp [h]

theorem dumpFile_of_ok {report : Report} (h : (buildReport engine fs job now).result = .ok report)
    (directory : Text) :
    (dumpFile engine fs job directory now).1 =
        (writeReport fs report directory job.encoding).1 ∧
      (dumpFile engine fs job directory now).2.result =
        (writeReport fs report directory job.encoding).2 := by
  rw [dumpFile_eq]
  simp [h]

/-- A dump logs what the building of the report logs, and the writing if there is any. -/
theorem dumpFile_log (engine : Engine) (fs : FileSystem) (job : Job) (now : Moment)
    (directory : Text) :
    (dumpFile engine fs job directory now).2.calls = (buildReport engine fs job now).calls ∧
      (dumpFile engine fs job directory now).2.entries =
        (buildReport engine fs job now).entries ++
          match (buildReport engine fs job now).result with
          | .error _ => []
          | .ok _ => [Job.writingEntry (outputPath job.file directory)] := by
  rw [dumpFile_eq]
  dsimp only
  cases (buildReport engine fs job now).result with
  | error error => exact ⟨rfl, (List.append_nil _).symm⟩
  | ok report => exact ⟨rfl, rfl⟩

/-- A phase before the writing fails: the file cannot be read and decoded, no language has the name,
the source has surrogates, or the serialized tree cannot be laid out. -/
inductive FailsEarly (engine : Engine) (fs : FileSystem) (job : Job) (error : DumpError) : Prop
  | reading : readSource fs job.file job.encoding = .error error → FailsEarly engine fs job error
  | language {source : Points} :
      readSource fs job.file job.encoding = .ok source →
      Language.find (some job.languageName) = .error error → FailsEarly engine fs job error
  | unparsable {source : Points} {language : Language} {missing : EncodeError} :
      readSource fs job.file job.encoding = .ok source →
      Language.find (some job.languageName) = .ok language →
      Encoding.utf8.encodeError? source = some missing → error = .unparsable missing →
      FailsEarly engine fs job error
  | layout {source : Text} {language : Language} :
      readSource fs job.file job.encoding = .ok source.points →
      Language.find (some job.languageName) = .ok language →
      layoutTree job.indent (engine language source) = .error error →
      FailsEarly engine fs job error

omit [Codecs] in
/-- A tree is laid out where its serialization is. -/
theorem layoutTree_eq_ok {indent t laidOut : Text} (h : layoutTree indent t = .ok laidOut) :
    Tree.layout indent t = .ok laidOut := by
  unfold layoutTree at h
  cases hlayout : Tree.layout indent t with
  | error unmatched =>
    rw [hlayout] at h
    cases h
  | ok other =>
    rw [hlayout] at h
    rw [Except.ok.inj h]

/-- A report cannot be built exactly if a phase before the writing fails. -/
theorem buildReport_eq_error_iff {error : DumpError} :
    (buildReport engine fs job now).result = .error error ↔ FailsEarly engine fs job error := by
  constructor
  · intro h
    have hend := buildReport_ends engine fs job now
    generalize buildReport engine fs job now = attempt at h hend
    cases hend with
    | unread hread =>
      obtain rfl := Except.error.inj h
      exact .reading hread
    | unknownLanguage hread hfind =>
      obtain rfl := Except.error.inj h
      exact .language hread hfind
    | unparsable hread hfind hmissing =>
      exact .unparsable hread hfind hmissing (Except.error.inj h).symm
    | unbalanced hread hfind hlayout =>
      obtain rfl := Except.error.inj h
      exact .layout hread hfind hlayout
    | built _ _ _ => cases h
  · intro h
    rw [buildReport_eq]
    cases h with
    | reading hread => simp only [hread]
    | language hread hfind => simp only [hread, parseSource_of_error hfind]
    | unparsable hread hfind hmissing herror =>
      simp only [hread, parseSource_of_missing hfind hmissing, herror]
    | layout hread hfind hlayout =>
      simp only [hread, parseSource_points, parseText, hfind, hlayout]

/-- What a report says about its job. -/
theorem buildReport_eq_ok {report : Report}
    (h : (buildReport engine fs job now).result = .ok report) :
    report.sourcePath = job.file ∧ report.parsedAt = now ∧
      ∃ source : Text, readSource fs job.file job.encoding = .ok source.points := by
  have hend := buildReport_ends engine fs job now
  generalize buildReport engine fs job now = attempt at h hend
  cases hend with
  | built hread _ _ =>
    obtain rfl := Except.ok.inj h
    exact ⟨rfl, rfl, _, hread⟩
  | unread _ | unknownLanguage _ _ | unparsable _ _ _ | unbalanced _ _ _ => cases h

/-- A report that is built has been logged up to the formatting of its tree. -/
theorem entries_of_built {report : Report}
    (h : (buildReport engine fs job now).result = .ok report) :
    ∃ tree, (buildReport engine fs job now).entries =
      [job.readingEntry, job.parsingEntry, Job.formattingEntry tree] := by
  have hend := buildReport_ends engine fs job now
  generalize buildReport engine fs job now = attempt at h hend
  cases hend with
  | built _ _ _ => exact ⟨_, rfl⟩
  | unread _ | unknownLanguage _ _ | unparsable _ _ _ | unbalanced _ _ _ => cases h

end SyntaxReport
