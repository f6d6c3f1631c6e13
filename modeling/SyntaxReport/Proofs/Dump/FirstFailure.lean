import Mathlib.Data.List.Forall2
import SyntaxReport.Proofs.Dump.Phases

/-!
# The first phase that fails

Several things can be wrong with a job at once: the file, the name of its language, the tree, the
output directory. What is wrong in a phase does not depend on the others, as far as the phase can
take place without them; the failure of a dump is that of the first phase in which something is
wrong, and nothing is logged of the phases behind it.

Results:
* `Fails.unique`: in each phase, at most one failure is possible.
* `FailsFirst.unique`: so there is at most one first failure.
* `buildReport_through`, `dumpFile_through`: how far a job gets.
-/

namespace SyntaxReport

open Calendar (Moment)
open FileSystem

variable [Codecs]

/-- The phases of a dump. -/
inductive Phase where
  | reading
  | parsing
  | formatting
  | writing
  deriving DecidableEq, Repr

/-- The place of a phase in the order in which they begin. -/
def Phase.number : Phase → Nat
  | reading => 1
  | parsing => 2
  | formatting => 3
  | writing => 4

/-- The phases in which a report is built. -/
def buildPhases : List Phase := [.reading, .parsing, .formatting]

/-- The phases of a dump. -/
def dumpPhases : List Phase := [.reading, .parsing, .formatting, .writing]

/-- What can be wrong in a phase, and the failure that it leads to. -/
inductive Fails (engine : Engine) (fs : FileSystem) (job : Job) (directory : Text) (now : Moment) :
    Phase → DumpError → Prop
  /-- The name of the encoding can be none. -/
  | nullNamed {error : DumpError} :
      checkEncodingName job.encoding = .error error →
      Fails engine fs job directory now .reading error
  /-- The file cannot be read. -/
  | unread {fault : SystemFault} :
      checkEncodingName job.encoding = .ok () →
      fs.readFile (Path.ofText job.file) = .error fault →
      Fails engine fs job directory now .reading (.refused ⟨fault, Path.ofText job.file⟩)
  /-- Its bytes cannot be decoded, or there is no such encoding. -/
  | undecoded {bytes : Bytes} {error : DumpError} :
      checkEncodingName job.encoding = .ok () →
      fs.readFile (Path.ofText job.file) = .ok bytes →
      decodeBytes job.encoding bytes = .error error →
      Fails engine fs job directory now .reading error
  /-- No language has the name. -/
  | unknownLanguage :
      (∀ language : Language, language.name ≠ job.languageName) →
      Fails engine fs job directory now .parsing (.unknownLanguage (some job.languageName))
  /-- The source has surrogates, and cannot be given to the engine. -/
  | unparsable {source : Points} {language : Language} {error : EncodeError} :
      readSource fs job.file job.encoding = .ok source →
      language.name = job.languageName →
      Encoding.utf8.encodeError? source = some error →
      Fails engine fs job directory now .parsing (.unparsable error)
  /-- The tree of the source has a closing parenthesis without partner. -/
  | unbalanced {source : Text} {language : Language} {unmatched : Tree.UnmatchedClose} :
      readSource fs job.file job.encoding = .ok source.points →
      language.name = job.languageName →
      Tree.layout job.indent (engine language source) = .error unmatched →
      Fails engine fs job directory now .formatting (.unmatchedClose unmatched.offset)
  /-- The output directory cannot be made. -/
  | noDirectory {made : FileSystem} {refusal : Refusal} :
      fs.makeDirectories (Path.ofText directory) = (made, .error refusal) →
      Fails engine fs job directory now .writing (.refused refusal)
  /-- The report's file cannot be opened in it. -/
  | notOpened {made : FileSystem} {fault : SystemFault} :
      fs.makeDirectories (Path.ofText directory) = (made, .ok ()) →
      made.openFile (outputPath job.file directory) = .error fault →
      Fails engine fs job directory now .writing
        (.refused ⟨fault, outputPath job.file directory⟩)
  /-- The report cannot be encoded. -/
  | unencoded {made : FileSystem} {opened : FileSystem × Location} {report : Report} {text : Text}
      {error : DumpError} :
      fs.makeDirectories (Path.ofText directory) = (made, .ok ()) →
      made.openFile (outputPath job.file directory) = .ok opened →
      (buildReport engine fs job now).result = .ok report →
      report.render = .ok text →
      encodeText job.encoding text = .error error →
      Fails engine fs job directory now .writing error

/-- The log entry with which a phase begins. -/
inductive Logs (engine : Engine) (fs : FileSystem) (job : Job) (directory : Text) :
    Phase → Text → Prop
  | reading : Logs engine fs job directory .reading job.readingEntry
  | parsing : Logs engine fs job directory .parsing job.parsingEntry
  /-- It tells the length of the tree that the engine has answered. -/
  | formatting {source : Text} {language : Language} :
      readSource fs job.file job.encoding = .ok source.points →
      language.name = job.languageName →
      Logs engine fs job directory .formatting (Job.formattingEntry (engine language source))
  | writing :
      Logs engine fs job directory .writing (Job.writingEntry (outputPath job.file directory))

/-- A phase fails, and none of those before it would. -/
structure FailsFirst (fails : Phase → DumpError → Prop) (phase : Phase) (error : DumpError) :
    Prop where
  before : ∀ earlier : Phase, earlier.number < phase.number → ∀ other, ¬fails earlier other
  fails : fails phase error

/-- How far a job gets: to the first of its phases that fails, or through all of them. -/
inductive Through (fails : Phase → DumpError → Prop) (logs : Phase → Text → Prop)
    (phases : List Phase) {α : Type} (attempt : Attempt α) : Prop
  /-- A phase fails; the log ends with its entry, and the engine is called between the second and
  the third. -/
  | stopped {phase : Phase} {error : DumpError} :
      phase ∈ phases →
      FailsFirst fails phase error →
      attempt.result = .error error →
      List.Forall₂ logs (phases.take phase.number) attempt.entries →
      (attempt.calls = [] ↔ phase.number ≤ 2) →
      Through fails logs phases attempt
  /-- No phase fails. -/
  | done {result : α} :
      (∀ phase ∈ phases, ∀ error, ¬fails phase error) →
      attempt.result = .ok result →
      List.Forall₂ logs phases attempt.entries →
      attempt.calls ≠ [] →
      Through fails logs phases attempt

variable {engine : Engine} {fs : FileSystem} {job : Job} {directory : Text} {now : Moment}
  {error : DumpError}

/-! ## Each phase by itself -/

/-- The reading fails where there is no source. -/
theorem fails_reading_iff : Fails engine fs job directory now .reading error ↔
    readSource fs job.file job.encoding = .error error := by
  unfold readSource
  dsimp only
  constructor
  · intro h
    cases h with
    | nullNamed hname => rw [hname]
    | unread hname hread => simp only [hname, hread]
    | undecoded hname hread hdecode =>
      simp only [hname, hread, hdecode]
      rfl
  · intro h
    rcases hname : checkEncodingName job.encoding with null | _
    · simp only [hname] at h
      obtain rfl := Except.error.inj h
      exact .nullNamed hname
    simp only [hname] at h
    rcases hread : fs.readFile (Path.ofText job.file) with fault | bytes
    · simp only [hread] at h
      obtain rfl := Except.error.inj h
      exact .unread hname hread
    simp only [hread] at h
    rcases hdecode : decodeBytes job.encoding bytes with failed | text
    · simp only [hdecode, Except.map] at h
      obtain rfl := Except.error.inj h
      exact .undecoded hname hread hdecode
    · simp only [hdecode, Except.map] at h
      cases h

theorem not_fails_reading {source : Points}
    (h : readSource fs job.file job.encoding = .ok source) :
    ¬Fails engine fs job directory now .reading error := by
  rw [fails_reading_iff, h]
  simp

omit [Codecs] in
/-- A language is found exactly by its name. -/
theorem find_eq_ok_iff {name : Text} {language : Language} :
    Language.find (some name) = .ok language ↔ language.name = name := by
  unfold Language.find
  rw [Option.bind_some, eq_comm (a := language.name), ← Language.ofName?_eq_some_iff]
  cases Language.ofName? name <;> simp

omit [Codecs] in
/-- A name that no language has is not found. -/
theorem find_eq_error_iff {name : Text} : Language.find (some name) = .error error ↔
    (∀ language : Language, language.name ≠ name) ∧ error = .unknownLanguage (some name) := by
  simp only [ne_eq, ← find_eq_ok_iff]
  unfold Language.find
  rw [Option.bind_some]
  cases Language.ofName? name <;> simp [eq_comm]

/-- The parsing fails where there is no language, and where the source has surrogates. -/
theorem fails_parsing_iff {source : Points}
    (hread : readSource fs job.file job.encoding = .ok source) :
    Fails engine fs job directory now .parsing error ↔
      (parseSource engine source (some job.languageName)).result = .error error := by
  constructor
  · intro h
    cases h with
    | unknownLanguage hnone => rw [parseSource_of_error (find_eq_error_iff.mpr ⟨hnone, rfl⟩)]
    | unparsable hread' hname hmissing =>
      obtain rfl := Except.ok.inj (hread.symm.trans hread')
      rw [parseSource_of_missing (find_eq_ok_iff.mpr hname) hmissing]
  · intro h
    rcases hfind : Language.find (some job.languageName) with failed | language
    · rw [parseSource_of_error hfind] at h
      obtain rfl := Except.error.inj h
      obtain ⟨hnone, rfl⟩ := find_eq_error_iff.mp hfind
      exact .unknownLanguage hnone
    rcases hmissing : Encoding.utf8.encodeError? source with _ | missing
    · obtain ⟨t, rfl⟩ := encodeError?_utf8_eq_none_iff.mp hmissing
      rw [parseSource_points, parseText, hfind] at h
      cases h
    · rw [parseSource_of_missing hfind hmissing] at h
      obtain rfl := Except.error.inj h
      exact .unparsable hread (find_eq_ok_iff.mp hfind) hmissing

theorem not_fails_parsing {source : Text} {language : Language}
    (hread : readSource fs job.file job.encoding = .ok source.points)
    (hfind : Language.find (some job.languageName) = .ok language) :
    ¬Fails engine fs job directory now .parsing error := by
  rw [fails_parsing_iff hread, parseSource_points, parseText, hfind]
  simp

/-- Once there is a source and a language, the tree is laid out or not. -/
theorem fails_formatting_iff {source : Text} {language : Language}
    (hread : readSource fs job.file job.encoding = .ok source.points)
    (hfind : Language.find (some job.languageName) = .ok language) :
    Fails engine fs job directory now .formatting error ↔
      layoutTree job.indent (engine language source) = .error error := by
  have hname := find_eq_ok_iff.mp hfind
  unfold layoutTree
  constructor
  · intro h
    cases h with
    | unbalanced hread' hname' hlayout =>
      obtain rfl := Points.points_inj.mp (Except.ok.inj (hread.symm.trans hread'))
      obtain rfl := Except.ok.inj (hfind.symm.trans (find_eq_ok_iff.mpr hname'))
      rw [hlayout]
  · intro h
    cases hlayout : Tree.layout job.indent (engine language source) with
    | error unmatched =>
      rw [hlayout] at h
      obtain rfl := Except.error.inj h
      exact .unbalanced hread hname hlayout
    | ok laidOut =>
      rw [hlayout] at h
      cases h

/-- Once a report is built and rendered, it is written or not. -/
theorem fails_writing_iff {report : Report} {text : Text}
    (hbuilt : (buildReport engine fs job now).result = .ok report)
    (hrender : report.render = .ok text) :
    Fails engine fs job directory now .writing error ↔
      (writeReport fs report directory job.encoding).2 = .error error := by
  obtain ⟨hfile, -, source, hread⟩ := buildReport_eq_ok hbuilt
  obtain ⟨hname, -⟩ := findCodec_of_readSource hread
  have hsource : report.loose.sourcePath = job.file := hfile
  have hloose : report.loose.render = .ok text.points := by
    rw [report.render_loose, hrender]
    rfl
  unfold writeReport writeLoose writePoints
  simp only [parent_outputPath, hsource, hloose, hname]
  constructor
  · intro h
    cases h with
    | noDirectory hmade => rw [hmade]
    | notOpened hmade hopen => simp only [hmade, hopen]
    | unencoded hmade hopen hbuilt' hrender' hencode =>
      obtain rfl := Except.ok.inj (hbuilt.symm.trans hbuilt')
      obtain rfl := Except.ok.inj (hrender.symm.trans hrender')
      have hpoints : encodePoints job.encoding text.points = .error error := hencode
      simp only [hmade, hopen, hpoints]
  · intro h
    rcases hmade : fs.makeDirectories (Path.ofText directory) with ⟨made, refusal | _⟩
    · simp only [hmade] at h
      obtain rfl := Except.error.inj h
      exact .noDirectory hmade
    simp only [hmade] at h
    rcases hopen : made.openFile (outputPath job.file directory) with fault | opened
    · simp only [hopen] at h
      obtain rfl := Except.error.inj h
      exact .notOpened hmade hopen
    simp only [hopen] at h
    rcases hencode : encodePoints job.encoding text.points with failed | bytes
    · simp only [hencode] at h
      obtain rfl := Except.error.inj h
      exact .unencoded hmade hopen hbuilt hrender hencode
    · simp only [hencode] at h
      cases h

/-- In each phase, at most one failure is possible. -/
theorem Fails.unique {phase : Phase} {other : DumpError}
    (h : Fails engine fs job directory now phase error)
    (h' : Fails engine fs job directory now phase other) : error = other := by
  cases phase with
  | reading =>
    rw [fails_reading_iff] at h h'
    exact Except.error.inj (h.symm.trans h')
  | parsing => cases h <;> cases h' <;> grind
  | formatting =>
    have hfirst := h
    cases hfirst with
    | unbalanced hread hname _ =>
      rw [fails_formatting_iff hread (find_eq_ok_iff.mpr hname)] at h h'
      exact Except.error.inj (h.symm.trans h')
  | writing =>
    -- every step of the writing answers once, so both failures are of the same step
    cases h <;> cases h' <;> grind

/-! ## The first failure -/

omit [Codecs] in
/-- A phase is told by its place. -/
theorem Phase.number_inj {phase other : Phase} (h : phase.number = other.number) :
    phase = other := by
  cases phase <;> cases other <;> first | rfl | cases h

/-- There is at most one first failure. -/
theorem FailsFirst.unique {phase phase' : Phase} {other : DumpError}
    (h : FailsFirst (Fails engine fs job directory now) phase error)
    (h' : FailsFirst (Fails engine fs job directory now) phase' other) :
    phase = phase' ∧ error = other := by
  have hnot : ¬phase.number < phase'.number := fun hlt => h'.before phase hlt error h.fails
  have hnot' : ¬phase'.number < phase.number := fun hlt => h.before phase' hlt other h'.fails
  obtain rfl := Phase.number_inj (Nat.le_antisymm (Nat.not_lt.mp hnot') (Nat.not_lt.mp hnot))
  exact ⟨rfl, h.fails.unique h'.fails⟩

/-! ## How far a job gets -/

/-- Building a report stops at the first phase that fails. -/
theorem buildReport_through (engine : Engine) (fs : FileSystem) (job : Job) (directory : Text)
    (now : Moment) : Through (Fails engine fs job directory now) (Logs engine fs job directory)
      buildPhases (buildReport engine fs job now) := by
  have hend := buildReport_ends engine fs job now
  generalize buildReport engine fs job now = attempt at hend
  cases hend with
  | unread hread =>
    refine .stopped (by decide) ⟨?_, fails_reading_iff.mpr hread⟩ rfl
      (.cons .reading .nil) (by simp [Phase.number])
    intro earlier hlt
    cases earlier <;> exact absurd hlt (by decide)
  | unknownLanguage hread hfind =>
    have hfails : Fails engine fs job directory now .parsing _ :=
      (fails_parsing_iff hread).mpr (congrArg Attempt.result (parseSource_of_error hfind))
    refine .stopped (by decide) ⟨?_, hfails⟩ rfl
      (.cons .reading (.cons .parsing .nil)) (by simp [Phase.number])
    intro earlier hlt other hfails
    cases earlier with
    | reading => exact not_fails_reading hread hfails
    | parsing | formatting | writing => exact absurd hlt (by decide)
  | unparsable hread hfind hmissing =>
    refine .stopped (by decide) ⟨?_, .unparsable hread (find_eq_ok_iff.mp hfind) hmissing⟩ rfl
      (.cons .reading (.cons .parsing .nil)) (by simp [Phase.number])
    intro earlier hlt other hfails
    cases earlier with
    | reading => exact not_fails_reading hread hfails
    | parsing | formatting | writing => exact absurd hlt (by decide)
  | unbalanced hread hfind hlayout =>
    refine .stopped (by decide) ⟨?_, (fails_formatting_iff hread hfind).mpr hlayout⟩ rfl
      (.cons .reading (.cons .parsing (.cons ?_ .nil))) (by simp [Phase.number])
    · intro earlier hlt other hfails
      cases earlier with
      | reading => exact not_fails_reading hread hfails
      | parsing => exact not_fails_parsing hread hfind hfails
      | formatting | writing => exact absurd hlt (by decide)
    · exact .formatting hread (find_eq_ok_iff.mp hfind)
  | built hread hfind hlayout =>
    refine .done ?_ rfl (.cons .reading (.cons .parsing (.cons ?_ .nil))) (by simp)
    · intro phase hphase other hfails
      cases phase with
      | reading => exact not_fails_reading hread hfails
      | parsing => exact not_fails_parsing hread hfind hfails
      | formatting => simp [fails_formatting_iff hread hfind, hlayout] at hfails
      | writing => exact absurd hphase (by decide)
    · exact .formatting hread (find_eq_ok_iff.mp hfind)

omit [Codecs] in
/-- A dump begins like the building of a report. -/
theorem take_dumpPhases {phase : Phase} (h : phase ∈ buildPhases) :
    phase ∈ dumpPhases ∧ dumpPhases.take phase.number = buildPhases.take phase.number := by
  cases phase with
  | reading | parsing | formatting => exact ⟨by decide, rfl⟩
  | writing => exact absurd h (by decide)

/-- A dump stops at the first phase that fails, where every report that it may build can be
rendered. -/
theorem dumpFile_through (engine : Engine) (fs : FileSystem) (job : Job) (directory : Text)
    (hrender : ∀ report : Report, report.parsedAt = now → ∃ text, report.render = .ok text) :
    Through (Fails engine fs job directory now) (Logs engine fs job directory) dumpPhases
      (dumpFile engine fs job directory now).2 := by
  obtain ⟨hcalls, hentries⟩ := dumpFile_log engine fs job now directory
  cases buildReport_through engine fs job directory now with
  | stopped hphase hfirst hbuilt hlog hcount =>
    obtain ⟨hphase', hbegun⟩ := take_dumpPhases hphase
    rw [hbuilt, List.append_nil] at hentries
    rw [← hbegun, ← hentries] at hlog
    rw [← hcalls] at hcount
    exact .stopped hphase' hfirst (dumpFile_of_error hbuilt directory).2 hlog hcount
  | @done report hnone hbuilt hlog hcalled =>
    have hresult := (dumpFile_of_ok hbuilt directory).2
    obtain ⟨text, htext⟩ := hrender report (buildReport_eq_ok hbuilt).2.1
    have hwriting (error : DumpError) : Fails engine fs job directory now .writing error ↔
        (writeReport fs report directory job.encoding).2 = .error error :=
      fails_writing_iff hbuilt htext
    have hlast : List.Forall₂ (Logs engine fs job directory) dumpPhases
        (dumpFile engine fs job directory now).2.entries := by
      rw [hentries, hbuilt]
      exact List.rel_append hlog (.cons .writing .nil)
    rw [← hcalls] at hcalled
    cases hwrite : (writeReport fs report directory job.encoding).2 with
    | error failed =>
      rw [hwrite] at hresult
      refine .stopped (by decide) ⟨?_, (hwriting failed).mpr hwrite⟩ hresult hlast ?_
      · intro earlier hlt
        cases earlier with
        | reading | parsing | formatting => exact hnone _ (by decide)
        | writing => exact absurd hlt (by decide)
      · simp [hcalled, Phase.number]
    | ok path =>
      rw [hwrite] at hresult
      refine .done ?_ hresult hlast hcalled
      intro phase _ other hfails
      cases phase with
      | reading | parsing | formatting => exact hnone _ (by decide) other hfails
      | writing => simp [hwriting, hwrite] at hfails

end SyntaxReport
