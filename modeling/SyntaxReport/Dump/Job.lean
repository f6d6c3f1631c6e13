import SyntaxReport.Dump.Engine
import SyntaxReport.Report.Store
import SyntaxReport.Text.Newline

/-!
# Dumping a file

A job names a source file and says how to read it. `buildReport` goes through the phases of reading,
parsing and formatting, and `dumpFile` also writes the report. Each phase logs an entry when it
begins, and the first phase that fails ends the job.

A log may refuse an entry, and then the phase fails before it does anything. `buildLogged` and
`dumpLogged` are the job with such a log.
-/

namespace SyntaxReport

open Calendar (Moment)

/-- What to dump and how: the file, the language's name if it is not to be guessed, the name of the
encoding of source and report, and the indentation of one level. -/
structure Job where
  file : Text
  language : Option Text
  encoding : Text
  indent : Text
  deriving DecidableEq, Repr

/-- The directory that reports are kept in unless another is asked for. -/
def defaultOutputDirectory : Text := "parse_results".toList

section Reading

variable [Codecs]

/-- The source that a file holds: its bytes are decoded, and its line ends become newlines. -/
def readSource (fs : FileSystem) (file encoding : Text) : Except DumpError Points :=
  let path := Path.ofText file
  match checkEncodingName encoding with
  | .error error => .error error
  | .ok () =>
    match fs.readFile path with
    | .error fault => .error (.refused ⟨fault, path⟩)
    | .ok bytes => (decodeBytes encoding bytes).map Points.unifyNewlines

end Reading

namespace Job

/-- The name of the job's language, guessed from the file's name if it is not given. -/
def languageName (job : Job) : Text :=
  job.language.getD (Language.guess (Path.ofText job.file)).name

/-- The log entry of the reading phase. -/
def readingEntry (job : Job) : Text :=
  "Reading ".toList ++ job.file ++ " as ".toList ++ job.encoding

/-- The log entry of the parsing phase. -/
def parsingEntry (job : Job) : Text :=
  "Parsing with the ".toList ++ job.languageName ++ " grammar".toList

/-- The log entry of the formatting phase. -/
def formattingEntry (tree : Text) : Text :=
  "Formatting ".toList ++ Text.decimal tree.length ++ " characters of tree text".toList

/-- The log entry of the writing phase. -/
def writingEntry (path : Path) : Text :=
  "Writing report to ".toList ++ path.toText

end Job

/-- A log: whether it takes an entry with a number, or how it fails. -/
abbrev Log := Nat → Text → Except DumpError Unit

/-- The log that takes all entries. -/
def Log.willing : Log := fun _ _ => .ok ()

variable [Codecs]

/-- The report on the job's file, made at the given moment. Nothing is written. -/
def buildLogged (log : Log) (engine : Engine) (fs : FileSystem) (job : Job) (now : Moment) :
    Attempt Report :=
  match log 1 job.readingEntry with
  | .error error => ⟨.error error, [], []⟩
  | .ok () =>
    match readSource fs job.file job.encoding with
    | .error error => ⟨.error error, [job.readingEntry], []⟩
    | .ok source =>
      match log 2 job.parsingEntry with
      | .error error => ⟨.error error, [job.readingEntry], []⟩
      | .ok () =>
        let parsed := parseSource engine source (some job.languageName)
        match parsed.result with
        | .error error => ⟨.error error, [job.readingEntry, job.parsingEntry], parsed.calls⟩
        | .ok tree =>
          match log 3 (Job.formattingEntry tree) with
          | .error error => ⟨.error error, [job.readingEntry, job.parsingEntry], parsed.calls⟩
          | .ok () =>
            let entries := [job.readingEntry, job.parsingEntry, Job.formattingEntry tree]
            match layoutTree job.indent tree with
            | .error error => ⟨.error error, entries, parsed.calls⟩
            | .ok laidOut => ⟨.ok ⟨job.file, now, laidOut⟩, entries, parsed.calls⟩

/-- The report on the job's file is made and written into the output directory. The answer is the
file system afterwards, and the report's path. -/
def dumpLogged (log : Log) (engine : Engine) (fs : FileSystem) (job : Job) (directory : Text)
    (now : Moment) : FileSystem × Attempt Path :=
  let built := buildLogged log engine fs job now
  match built.result with
  | .error error => (fs, { built with result := .error error })
  | .ok report =>
    let writing := Job.writingEntry (outputPath job.file directory)
    match log 4 writing with
    | .error error => (fs, { built with result := .error error })
    | .ok () =>
      let (fs, result) := writeReport fs report directory job.encoding
      (fs, { built with result, entries := built.entries ++ [writing] })

/-- The report on the job's file, with a log that takes all entries. -/
def buildReport (engine : Engine) (fs : FileSystem) (job : Job) (now : Moment) : Attempt Report :=
  buildLogged .willing engine fs job now

/-- Without a log that refuses anything, only the phases themselves can fail. -/
theorem buildReport_eq (engine : Engine) (fs : FileSystem) (job : Job) (now : Moment) :
    buildReport engine fs job now =
      match readSource fs job.file job.encoding with
      | .error error => ⟨.error error, [job.readingEntry], []⟩
      | .ok source =>
        let parsed := parseSource engine source (some job.languageName)
        match parsed.result with
        | .error error => ⟨.error error, [job.readingEntry, job.parsingEntry], parsed.calls⟩
        | .ok tree =>
          let entries := [job.readingEntry, job.parsingEntry, Job.formattingEntry tree]
          match layoutTree job.indent tree with
          | .error error => ⟨.error error, entries, parsed.calls⟩
          | .ok laidOut => ⟨.ok ⟨job.file, now, laidOut⟩, entries, parsed.calls⟩ :=
  rfl

/-- The dump of the job's file, with a log that takes all entries. -/
def dumpFile (engine : Engine) (fs : FileSystem) (job : Job) (directory : Text) (now : Moment) :
    FileSystem × Attempt Path :=
  dumpLogged .willing engine fs job directory now

/-- A dump is a report that is built and then written. -/
theorem dumpFile_eq (engine : Engine) (fs : FileSystem) (job : Job) (directory : Text)
    (now : Moment) :
    dumpFile engine fs job directory now =
      let built := buildReport engine fs job now
      match built.result with
      | .error error => (fs, { built with result := .error error })
      | .ok report =>
        let (fs, result) := writeReport fs report directory job.encoding
        let writing := Job.writingEntry (outputPath job.file directory)
        (fs, { built with result, entries := built.entries ++ [writing] }) :=
  rfl

end SyntaxReport
