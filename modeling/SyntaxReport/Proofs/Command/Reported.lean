import SyntaxReport.Proofs.Command.Printing
import SyntaxReport.Proofs.Dump.Failure
import SyntaxReport.Proofs.Dump.FirstFailure
import SyntaxReport.Proofs.Encoding.Failures
import SyntaxReport.Proofs.Text.Visible

/-!
# What a run reports

A run shows its log, which has an entry for each phase that has begun, and then either confirms or
says on one line of the error stream what went wrong first. So the length of the log tells the phase
that has failed. The encodings of this library read nothing but text, so under their names a failure
of the second phase is always one of the language.

Results:
* `run_ends`: a run fails with the first phase that does, or goes through all of them.
* `codecFailure?_of_fails`, `eq_unknownLanguage_of_fails`: what cannot go wrong under the name of an
  encoding of this library.
* `mem_failureLine`: where the line about a failure can have a line break.
* `run_reports_first_failure`: all of it, with the numbers of the log lines.
* `surrogate_stops_run`: a source that is read, but is no text.
-/

namespace SyntaxReport.Command

open Calendar (DateTime)
open Console (Tint logLine)

/-- The phases of a run: a report that is printed is not written. -/
def phasesOf (print : Bool) : List Phase :=
  if print then buildPhases else dumpPhases

/-- The characters that end a line somewhere. -/
def lineBreaks : Text :=
  ['\n', '\r', '\x0b', '\x0c', '\x1c', '\x1d', '\x1e', '\u0085', '\u2028', '\u2029']

variable {engine : Engine} {clock : DateTime} {fs : FileSystem} {job : Job} {directory : Text}
  {noColor : Option Text} {print verbose : Bool}

/-! ## The log -/

/-- The lines of a log, numbered from one on without gaps, if the log is wanted. -/
def numberedLines (verbose : Bool) (noColor : Option Text) (entries : List Text) : List Text :=
  if verbose then (entries.zipIdx 1).map fun entry => logLine noColor entry.2 entry.1 else []

theorem logIf_eq_numberedLines (verbose : Bool) (noColor : Option Text) (entries : List Text) :
    logIf verbose noColor entries = numberedLines verbose noColor entries := by
  have hfrom (number : Nat) : Console.logLinesFrom noColor number entries =
      (entries.zipIdx number).map fun entry => logLine noColor entry.2 entry.1 := by
    induction entries generalizing number with
    | nil => rfl
    | cons entry more ih => rw [Console.logLinesFrom, ih, List.zipIdx_cons, List.map_cons]
  rw [logIf, numberedLines, Console.logLines, hfrom 1]

theorem length_numberedLines (noColor : Option Text) (entries : List Text) :
    (numberedLines true noColor entries).length = entries.length := by
  simp [numberedLines]

/-- As many phases have begun as the number of the last one says. -/
theorem length_take_phasesOf {phase : Phase} (h : phase ∈ phasesOf print) :
    ((phasesOf print).take phase.number).length = phase.number := by
  cases print <;> cases phase <;> first | rfl | exact absurd h (by decide)

/-! ## How a run ends -/

section Runs

variable [Codecs]

/-- The ways in which a run ends. -/
inductive RunEnd (engine : Engine) (clock : DateTime) (noColor : Option Text) (fs : FileSystem)
    (job : Job) (directory : Text) (print verbose : Bool) (ran : RunOutcome) : Prop
  /-- A phase fails, and the run says so on the error stream. -/
  | failed {phase : Phase} {error : DumpError} {entries : List Text} :
      phase ∈ phasesOf print →
      FailsFirst (Fails engine fs job directory (momentOf clock)) phase error →
      List.Forall₂ (Logs engine fs job directory) ((phasesOf print).take phase.number) entries →
      (ran.calls = [] ↔ phase.number ≤ 2) →
      ran.succeeded = false →
      ran.printed = ⟨numberedLines verbose noColor entries, [(Line.failed error).shown noColor]⟩ →
      RunEnd engine clock noColor fs job directory print verbose ran
  /-- No phase fails, and the run confirms that and says where the report is, or shows it. -/
  | succeeded {entries : List Text} {last : Text} :
      (∀ phase ∈ phasesOf print, ∀ error,
        ¬Fails engine fs job directory (momentOf clock) phase error) →
      List.Forall₂ (Logs engine fs job directory) (phasesOf print) entries →
      (print = false → last = (Line.saved (outputPath job.file directory)).shown noColor) →
      (print = true → ∃ report, (buildReport engine fs job (momentOf clock)).result = .ok report ∧
        report.render = .ok last) →
      ran.succeeded = true →
      ran.printed = ⟨numberedLines verbose noColor entries ++
        [(Line.parsed job.file).shown noColor, last], []⟩ →
      RunEnd engine clock noColor fs job directory print verbose ran

/-- A run ends in one of these ways. -/
theorem run_ends (engine : Engine) (hclock : clock.Valid) (noColor : Option Text) (fs : FileSystem)
    (job : Job) (directory : Text) (print verbose : Bool) :
    RunEnd engine clock noColor fs job directory print verbose
      (run engine clock noColor fs job directory print verbose) := by
  have hrender (report : Report) (hnow : report.parsedAt = momentOf clock) :=
    exists_render hclock hnow
  have hlines := logIf_eq_numberedLines verbose noColor
  cases print with
  | false =>
    rw [run_save]
    unfold savingScript
    cases dumpFile_through engine fs job directory hrender with
    | stopped hphase hfirst hresult hlog hcount =>
      simp only [hresult, Script.printed, hlines]
      exact .failed hphase hfirst hlog hcount rfl (by simp)
    | done hnone hresult hlog hcalled =>
      obtain ⟨rfl, -⟩ := dumpFile_ends_well hresult
      simp only [hresult, Script.printed, hlines]
      exact .succeeded hnone hlog (fun _ => rfl) (fun h => absurd h Bool.false_ne_true) rfl rfl
  | true =>
    rw [run_print]
    unfold printingScript
    cases buildReport_through engine fs job directory (momentOf clock) with
    | stopped hphase hfirst hresult hlog hcount =>
      simp only [hresult, Script.printed, hlines]
      exact .failed hphase hfirst hlog hcount rfl (by simp)
    | done hnone hresult hlog hcalled =>
      obtain ⟨text, htext⟩ := hrender _ (buildReport_eq_ok hresult).2.1
      simp only [hresult, htext, Script.printed, hlines]
      exact .succeeded hnone hlog (fun h => absurd h.symm Bool.false_ne_true)
        (fun _ => ⟨_, hresult, htext⟩) rfl rfl

/-! ## The line about a failure -/

omit [Codecs] in
/-- The characters at which lines end are looked at one by one. -/
theorem not_mem_of_all_lineBreaks {t : Text} (h : lineBreaks.all (fun c => !t.contains c))
    {c : Char} (hc : c ∈ lineBreaks) : c ∉ t := by
  simpa using List.all_eq_true.mp h c hc

omit [Codecs] in
theorem isPrintable_eq_false_of_mem {c : Char} (hc : c ∈ lineBreaks) :
    Text.isPrintable c = false := by
  have hall : lineBreaks.all (fun c => !Text.isPrintable c) := by decide +kernel
  simpa using List.all_eq_true.mp hall c hc

/-- If no encoding has a name, then it is that of the job. -/
theorem encoding_of_fails {now : Calendar.Moment} {phase : Phase} {fault : NameFault} {name : Text}
    (h : Fails engine fs job directory now phase (.noEncoding fault name)) :
    name = job.encoding := by
  cases phase with
  | reading => simpa using readSource_eq_error (fails_reading_iff.mp h)
  | parsing | formatting => cases h
  | writing =>
    cases h with
    | unencoded _ _ hbuilt _ hencode =>
      -- The source has been read, so the name is that of an encoding.
      obtain ⟨-, -, source, hread⟩ := buildReport_eq_ok hbuilt
      obtain ⟨-, codec, hfound⟩ := findCodec_of_readSource hread
      obtain hname | ⟨_, _, -, -, hfailed⟩ := encodePoints_eq_error_iff.mp hencode
      · rw [hfound] at hname
        cases hname
      · cases hfailed

/-- Under the name of an encoding of this library, no codec of the system fails. -/
theorem codecFailure?_of_fails {now : Calendar.Moment} {phase : Phase} {error : DumpError}
    {encoding : Encoding} (h : Fails engine fs job directory now phase error)
    (hname : Encoding.ofName? job.encoding = some encoding) : error.codecFailure? = none := by
  cases h with
  | nullNamed hchecked =>
    obtain rfl := eq_nullInEncoding_of_checkEncodingName hchecked
    rfl
  | @undecoded bytes _ _ _ hdecode =>
    obtain ⟨t, htext⟩ | ⟨failure, hfailure, hnone⟩ := decodeBytes_of_own hname bytes
    · cases hdecode.symm.trans htext
    · obtain rfl := Except.error.inj (hdecode.symm.trans hfailure)
      exact hnone
  | @unparsable source _ missing _ _ hmissing =>
    unfold Encoding.encodeError? at hmissing
    split at hmissing
    · cases hmissing
    · obtain rfl := Option.some.inj hmissing
      rfl
  | unencoded _ _ _ _ hencode => exact codecFailure?_of_encodePoints hname hencode
  | unread _ _ | unknownLanguage _ | unbalanced _ _ _ | noDirectory _ | notOpened _ _ => rfl

/-- Under such a name, the parsing can fail only for want of the language. -/
theorem eq_unknownLanguage_of_fails {now : Calendar.Moment} {error : DumpError}
    {encoding : Encoding} (h : Fails engine fs job directory now .parsing error)
    (hname : Encoding.ofName? job.encoding = some encoding) :
    (∀ language : Language, language.name ≠ job.languageName) ∧
      error = .unknownLanguage (some job.languageName) := by
  cases h with
  | unknownLanguage hnone => exact ⟨hnone, rfl⟩
  | unparsable hread _ hmissing =>
    obtain ⟨t, rfl⟩ := exists_text_of_readSource hname hread
    rw [encodeError?_utf8_eq_none_iff.mpr ⟨t, rfl⟩] at hmissing
    cases hmissing

/-- A line break in the line about a failure is one of the name of the encoding, or of the words of
a codec of the system. -/
theorem mem_failureLine {error : DumpError} {now : Calendar.Moment} {phase : Phase}
    (h : Fails engine fs job directory now phase error) {c : Char} (hc : c ∈ lineBreaks)
    (hmem : c ∈ (Line.failed error).shown noColor) :
    c ∈ job.encoding ∨ ∃ failure, error.codecFailure? = some failure ∧ c ∈ failure.message := by
  by_contra hnot
  rw [not_or, not_exists] at hnot
  obtain ⟨hencoding, hcodec⟩ := hnot
  have hmessage : c ∉ error.message :=
    DumpError.not_mem_message (fun fault name hname => encoding_of_fails (hname ▸ h))
      (isPrintable_eq_false_of_mem hc) hencoding
      fun failure hfailure hmem => hcodec failure ⟨hfailure, hmem⟩
  have hline : c ∉ failureLine error :=
    List.not_mem_append (not_mem_of_all_lineBreaks (by decide) hc) hmessage
  cases noColor with
  | some value => exact hline hmem
  | none =>
    -- the control sequences around it are on the same line
    have hstart : c ∉ Console.sequence ['1'] ++ Console.sequence Tint.red.parameter :=
      not_mem_of_all_lineBreaks (by decide) hc
    have hstop : c ∉ Console.sequence ['0'] := not_mem_of_all_lineBreaks (by decide) hc
    exact List.not_mem_append (List.not_mem_append hstart hline) hstop hmem

/-! ## What a run reports -/

/-- A run reports the first failure. If it succeeds, then no phase fails, the error stream is empty,
and the log is followed by the confirmation and the report, or the place where it is. If it fails,
then some phase is the first that fails. For this phase and its failure, whatever else would fail
behind it, the error stream has one line, with the message; a line break in it is one of the name of
the encoding, or of the words of a codec that fails, and this is none of this library. The output
stream then has nothing but the log, of the phases up to this one, and the engine has been called
exactly if these are more than two. The lines of the log are numbered from one on, so a failing run
shows as many of them as the number of the phase is. Under the name of an encoding of this library,
the second phase fails exactly where no language has the name. -/
theorem run_reports_first_failure (engine : Engine) {clock : DateTime} (hclock : clock.Valid)
    (noColor : Option Text) (fs : FileSystem) (job : Job) (directory : Text)
    (print verbose : Bool) :
    let ran := run engine clock noColor fs job directory print verbose
    let fails := Fails engine fs job directory (momentOf clock)
    let logs := Logs engine fs job directory
    let phases := phasesOf print
    (ran.succeeded = true →
      (∀ phase ∈ phases, ∀ error, ¬fails phase error) ∧ ran.printed.err = [] ∧
      ∃ entries last, List.Forall₂ logs phases entries ∧
        ran.printed.out = numberedLines verbose noColor entries ++
          [Tint.green.paint noColor (parsedLine job.file), last] ∧
        (print = false →
          last = Tint.green.paint noColor (savedLine (outputPath job.file directory))) ∧
        (print = true → ∃ report, (buildReport engine fs job (momentOf clock)).result = .ok report ∧
          report.render = .ok last)) ∧
    (ran.succeeded = false → ∃ phase ∈ phases, ∃ error, FailsFirst fails phase error) ∧
    (∀ phase ∈ phases, ∀ error, FailsFirst fails phase error →
      let line := Tint.red.paint noColor ("Parse error: ".toList ++ error.message)
      ran.succeeded = false ∧ ran.printed.err = [line] ∧
      (∀ c ∈ lineBreaks, c ∈ line → c ∈ job.encoding ∨
        ∃ failure, error.codecFailure? = some failure ∧ c ∈ failure.message) ∧
      (∀ encoding, Encoding.ofName? job.encoding = some encoding → error.codecFailure? = none) ∧
      (ran.calls = [] ↔ phase.number ≤ 2) ∧
      ∃ entries, List.Forall₂ logs (phases.take phase.number) entries ∧
        ran.printed.out = numberedLines verbose noColor entries) ∧
    (verbose = true → ran.succeeded = false → ∀ phase ∈ phases,
      (ran.printed.out.length = phase.number ↔ ∃ error, FailsFirst fails phase error)) ∧
    ∀ encoding, Encoding.ofName? job.encoding = some encoding → ∀ error,
      (fails .parsing error ↔ (∀ language : Language, language.name ≠ job.languageName) ∧
        error = .unknownLanguage (some job.languageName)) := by
  intro ran fails logs phases
  have hunknown (encoding : Encoding) (hname : Encoding.ofName? job.encoding = some encoding)
      (error : DumpError) : fails .parsing error ↔
        (∀ language : Language, language.name ≠ job.languageName) ∧
          error = .unknownLanguage (some job.languageName) := by
    refine ⟨fun h => eq_unknownLanguage_of_fails h hname, ?_⟩
    rintro ⟨hnone, rfl⟩
    exact .unknownLanguage hnone
  have hend : RunEnd engine clock noColor fs job directory print verbose ran :=
    run_ends engine hclock noColor fs job directory print verbose
  cases hend with
  | @failed phase error entries hphase hfirst hlog hcount hfailed hprinted =>
    refine ⟨fun h => absurd h (by simp [hfailed]), fun _ => ⟨phase, hphase, error, hfirst⟩, ?_, ?_,
      hunknown⟩
    · rintro other - otherError hother
      obtain ⟨rfl, rfl⟩ := hfirst.unique hother
      refine ⟨hfailed, ?_, fun c hc hmem => mem_failureLine hfirst.fails hc hmem,
        fun encoding hname => codecFailure?_of_fails hfirst.fails hname, hcount, entries, hlog, ?_⟩
      · rw [hprinted]
        rfl
      · rw [hprinted]
    · rintro rfl - other hother
      have hlength : ran.printed.out.length = phase.number := by
        rw [hprinted, length_numberedLines, ← hlog.length_eq, length_take_phasesOf hphase]
      rw [hlength]
      constructor
      · intro hnumber
        obtain rfl := Phase.number_inj hnumber
        exact ⟨error, hfirst⟩
      · rintro ⟨otherError, hother⟩
        rw [(hfirst.unique hother).1]
  | @succeeded entries last hnone hlog hsaved hshown hsucceeded hprinted =>
    refine ⟨fun _ => ⟨hnone, ?_, entries, last, hlog, ?_, hsaved, hshown⟩, ?_, ?_, ?_, hunknown⟩
    · rw [hprinted]
    · rw [hprinted]
      rfl
    · exact fun hfailed => absurd hsucceeded (by simp [hfailed])
    · exact fun phase hphase error hfirst => absurd hfirst.fails (hnone phase hphase error)
    · exact fun _ hfailed => absurd hsucceeded (by simp [hfailed])

end Runs

open SmallSystem in
/-- A language that has no grammar, and a line break in its name, and a file in the place of the
output directory: only the first of both is reported, on one line. -/
theorem run_reports_first_failure_language :
    let job : Job := ⟨"x.js".toList, some "j\ns".toList, "utf-8".toList, [' ']⟩
    let ran := run (fun _ _ => [')']) millennium none filesWithSource job "x.js".toList false true
    millennium.Valid ∧
      (∃ error, Fails (fun _ _ => [')']) filesWithSource job "x.js".toList (momentOf millennium)
        .writing error) ∧
      ran.succeeded = false ∧ ran.calls = [] ∧ ran.printed.out.length = 2 ∧
      ran.printed.err = [Tint.red.paint none ("Parse error: ".toList ++
        (DumpError.unknownLanguage (some "j\ns".toList)).message)] := by
  intro job ran
  have hclock : millennium.Valid := by decide
  have hread : readSource filesWithSource job.file job.encoding = .ok (Text.points ['x']) := rfl
  have hunknown : ∀ language : Language, language.name ≠ job.languageName := by
    intro language
    cases language <;> decide
  have hfirst : FailsFirst (Fails (fun _ _ => [')']) filesWithSource job "x.js".toList
      (momentOf millennium)) .parsing (.unknownLanguage (some job.languageName)) := by
    refine ⟨fun earlier hlt other hfails => ?_, .unknownLanguage hunknown⟩
    cases earlier with
    | reading => exact not_fails_reading hread hfails
    | parsing | formatting | writing => exact absurd hlt (by decide)
  obtain ⟨-, -, hreported, hcount, -⟩ := run_reports_first_failure (fun _ _ => [')']) hclock none
    filesWithSource job "x.js".toList false true
  obtain ⟨hfailed, herr, -, -, hcalls, -⟩ := hreported .parsing (by decide) _ hfirst
  exact ⟨hclock, ⟨_, .noDirectory rfl⟩, hfailed, hcalls.mpr (by decide),
    (hcount rfl hfailed .parsing (by decide)).mpr ⟨_, hfirst⟩, herr⟩

/-- A file with an escaped surrogate. -/
def filesWithSurrogate : FileSystem :=
  { entries := [(["a.js".toList], .file (RawEscape.asciiBytes "\\ud800".toList))]
    workingDirectory := [] }

open SmallSystem in
/-- The language is known and the file is read, but what has been read cannot be given to the
engine: two entries, and a failure. -/
theorem surrogate_stops_run :
    let job : Job := ⟨"a.js".toList, none, "raw_unicode_escape".toList, [' ', ' ']⟩
    let ran := run (fun _ _ => "(program)".toList) millennium none filesWithSurrogate job
      "out".toList false true
    job.languageName = Language.javascript.name ∧ '\n' ∉ job.encoding ∧ ran.succeeded = false ∧
      ran.printed.out.length = 2 ∧ ran.printed.err = [Tint.red.paint none
        ("Parse error: 'utf-8' codec can't encode character '\\ud800' in position 0: ".toList ++
          "surrogates not allowed".toList)] :=
  ⟨rfl, by decide, rfl, rfl, by decide +kernel⟩

end SyntaxReport.Command
