import SyntaxReport.Proofs.Dump.Phases
import SyntaxReport.Proofs.Encoding.RoundTrip

/-!
# A file and the text that it holds

A report on a file shows the tree that is dumped from the file's text in memory. The encoding makes
no difference: reading undoes it, and only the line ends become newlines on the way.

Results:
* `readSource_of_holdsText`: the source that is read from a file.
* `treeText_buildReport_eq_dumpText`: the same tree, the same failure and the same engine calls for
  the file and for its text, and hence for all files with that text.
-/

namespace SyntaxReport

open Calendar (Moment)

/-- The file holds the string in the encoding of the given name. -/
def HoldsPoints (fs : FileSystem) (file encoding : Text) (points : Points) : Prop :=
  ∃ found bytes, Encoding.ofName? encoding = some found ∧ found.encode points = .ok bytes ∧
    fs.readFile (Path.ofText file) = .ok bytes

/-- The file holds the text in the encoding of the given name. -/
def HoldsText (fs : FileSystem) (file encoding t : Text) : Prop :=
  HoldsPoints fs file encoding t.points

section Holding

variable [Codecs]

/-- What is read from a file that holds a string is the string with newlines for its line ends. -/
theorem readSource_of_holdsPoints {fs : FileSystem} {file encoding : Text} {points : Points}
    (h : HoldsPoints fs file encoding points) :
    readSource fs file encoding = .ok points.unifyNewlines := by
  obtain ⟨found, bytes, hfound, hencode, hread⟩ := h
  have hbytes := (encodePoints_iff_encode hfound).mpr hencode
  rw [readSource, checkEncodingName_of_ofName? hfound]
  dsimp only
  rw [hread]
  dsimp only
  rw [decodeBytes_of_encodePoints hfound hbytes]
  rfl

theorem readSource_of_holdsText {fs : FileSystem} {file encoding t : Text}
    (h : HoldsText fs file encoding t) :
    readSource fs file encoding = .ok (Text.unifyNewlines t).points := by
  rw [readSource_of_holdsPoints h, Points.unifyNewlines_points]

/-- From the source on, building a report goes the way of dumping a text. -/
theorem buildReport_of_readSource (engine : Engine) {fs : FileSystem} {job : Job} (now : Moment)
    {source : Text} (h : readSource fs job.file job.encoding = .ok source.points) :
    (buildReport engine fs job now).result.map Report.treeText =
        (dumpText engine source (some job.languageName) job.indent).result ∧
      (buildReport engine fs job now).calls =
        (dumpText engine source (some job.languageName) job.indent).calls := by
  rw [buildReport_eq]
  unfold dumpText
  rw [h]
  dsimp only
  rw [parseSource_points]
  cases (parseText engine source (some job.languageName)).result with
  | error error => exact ⟨rfl, rfl⟩
  | ok tree =>
    dsimp only
    cases layoutTree job.indent tree with
    | error error => exact ⟨rfl, rfl⟩
    | ok laidOut => exact ⟨rfl, rfl⟩

/-- If a file holds a text, in whatever encoding, then the tree of its report is the tree dumped
from that text with newlines for its line ends, or both fail alike; the engine is called alike. So
all files with the text, whatever their encodings, show the same tree in a language. -/
theorem treeText_buildReport_eq_dumpText (engine : Engine) (fs : FileSystem) (job : Job)
    (now : Moment) (t : Text) (h : HoldsText fs job.file job.encoding t) :
    let built := buildReport engine fs job now
    let dumped := dumpText engine (Text.unifyNewlines t) (some job.languageName) job.indent
    built.result.map Report.treeText = dumped.result ∧ built.calls = dumped.calls ∧
      ∀ (otherFiles : FileSystem) (other : Job) (later : Moment),
        HoldsText otherFiles other.file other.encoding t →
          other.languageName = job.languageName → other.indent = job.indent →
          (buildReport engine otherFiles other later).result.map Report.treeText =
              built.result.map Report.treeText ∧
            (buildReport engine otherFiles other later).calls = built.calls := by
  intro built dumped
  obtain ⟨hresult, hcalls⟩ :=
    buildReport_of_readSource engine now (readSource_of_holdsText h)
  refine ⟨hresult, hcalls, fun otherFiles other later hother hlanguage hindent => ?_⟩
  obtain ⟨hresult', hcalls'⟩ :=
    buildReport_of_readSource engine later (readSource_of_holdsText hother)
  rw [hlanguage, hindent] at hresult' hcalls'
  exact ⟨hresult'.trans hresult.symm, hcalls'.trans hcalls.symm⟩

end Holding

/-- A text with an accent, a pair of line end characters and a lone carriage return. -/
def accentedText : Text := "é\r\n\r".toList

/-- The bytes of that text in Latin 1. -/
def accentedLatin1 : Bytes := [0xE9, 0x0D, 0x0A, 0x0D]

/-- The bytes of that text in UTF-16, behind a byte order mark. -/
def accentedUtf16 : Bytes := [0xFF, 0xFE] ++ accentedLatin1.flatMap fun b => [b, 0]

/-- The text in both encodings, in the root directory, where the program works. -/
def filesWithAccents : FileSystem :=
  { entries := [(["a.py".toList], .file accentedLatin1), (["b.py".toList], .file accentedUtf16)]
    workingDirectory := [] }

/-- A language is found by its name. -/
theorem find_name (language : Language) : Language.find (some language.name) = .ok language := by
  have hname : Language.ofName? language.name = some language :=
    Language.ofName?_eq_some_iff.mpr rfl
  rw [Language.find, Option.bind_some, hname]

/-- Without a name, the language is the one that the file's name tells. -/
theorem languageName_of_guess {job : Job} {language : Language} (hnone : job.language = none)
    (hguess : Language.guess (Path.ofText job.file) = language) :
    job.languageName = language.name := by
  rw [Job.languageName, hnone, hguess, Option.getD_none]

open SmallSystem in
/-- The two files show the same tree, with two newlines in it. -/
theorem treeText_buildReport_eq_dumpText_accents :
    let a : Job := ⟨"a.py".toList, none, "latin-1".toList, ['\t']⟩
    let b : Job := ⟨"b.py".toList, none, "utf-16".toList, ['\t']⟩
    let now : Moment := ⟨⟨⟨2000, 1, 1⟩, 0, 0, 0, 0⟩, none⟩
    let tree : Text := "é\n\n".toList
    HoldsText filesWithAccents a.file a.encoding accentedText ∧
      HoldsText filesWithAccents b.file b.encoding accentedText ∧
      (buildReport (fun _ source => source) filesWithAccents a now).result.map Report.treeText =
        .ok tree ∧
      (buildReport (fun _ source => source) filesWithAccents b now).result.map Report.treeText =
        .ok tree := by
  intro a b now tree
  have ha : HoldsText filesWithAccents a.file a.encoding accentedText :=
    ⟨.latin1, accentedLatin1, rfl, rfl, rfl⟩
  have hb : HoldsText filesWithAccents b.file b.encoding accentedText :=
    ⟨.utf16, accentedUtf16, rfl, rfl, rfl⟩
  have hguess : Language.guess (Path.ofText "a.py".toList) = .python := by rfl
  have hguess' : Language.guess (Path.ofText "b.py".toList) = .python := by rfl
  have hname : a.languageName = Language.python.name := languageName_of_guess rfl hguess
  have hname' : b.languageName = Language.python.name := languageName_of_guess rfl hguess'
  have htree : layoutTree a.indent (Text.unifyNewlines accentedText) = .ok tree := rfl
  obtain ⟨hresult, -, hsame⟩ :=
    treeText_buildReport_eq_dumpText (fun _ source => source) filesWithAccents a now _ ha
  have hdumped : (dumpText (fun _ source => source) (Text.unifyNewlines accentedText)
      (some a.languageName) a.indent).result = .ok tree := by
    rw [hname, dumpText, parseText, find_name]
    exact htree
  have hread := hresult.trans hdumped
  have hother := hsame filesWithAccents b now hb (hname'.trans hname.symm) rfl
  exact ⟨ha, hb, hread, hother.1.trans hread⟩

end SyntaxReport
