import SyntaxReport.Proofs.Command.Refused
import SyntaxReport.Proofs.Console.Titles
import SyntaxReport.Proofs.FileSystem.Lookup

/-!
# Failures that escape the work

The run of a job reports its failures. But the work fails outside of that if the file cannot be
looked up, or if the indentation cannot be made, and it cannot report anything if the error stream
refuses the line that says so. Such a line has a command to a terminal in it, so it can only be one
with a text from outside: the name of a file that is not there, or a name that is that of no
encoding.

Results:
* `exists_name_of_refused`: of the lines about failures, only one about a name can be refused.
* `runOn_exit`: the only failure that escapes a run.
* `body_exit`: the failures that escape the work are those of `WorkEscapes`.
-/

namespace SyntaxReport.Command

open Calendar (DateTime)
open Console (Tint Untitled logLine)

/-- The flags do not exclude each other, and a file is named. -/
structure Settings.WorksOn (settings : Settings) (file : Text) : Prop where
  flags : checkFlags settings.quiet settings.verbose settings.print = .ok ()
  file_eq : settings.file = some file

/-- The path has been looked up, and names no file. -/
structure NotFile (fs : FileSystem) (path : Path) : Prop where
  unread : ∀ content, fs.readFile path ≠ .ok content
  short : ¬fs.TooLong path
  unbarred : ¬fs.Barred path

/-- What can be refused with the settings: the line about a file that is not there. -/
def Settings.NotFoundRefused (settings : Settings) (around : Surroundings) (file : Text) : Prop :=
  (settings.refusals around).err
    (Tint.red.paint (settings.noColor around) (notFoundLine file)) = true

/-- What can be refused with the settings: the line about a name that is that of no encoding. The
work gets to it if the first line of the log, which has the name as well, is not wanted or not
refused. -/
structure Settings.NameRefused [Codecs] (settings : Settings) (around : Surroundings) (file : Text)
    (fault : NameFault) : Prop where
  named : checkEncodingName settings.encoding = .ok ()
  missing : findCodec settings.encoding = .error (.noEncoding fault settings.encoding)
  logged : settings.verbose → (settings.refusals around).out
    (logLine (settings.noColor around) 1 (settings.job file).readingEntry) = false
  refused : (settings.refusals around).err (Tint.red.paint (settings.noColor around)
    (failureLine (.noEncoding fault settings.encoding))) = true

/-- The failures that escape the work on a file. -/
inductive WorkEscapes [Codecs] (around : Surroundings) (fs : FileSystem) (settings : Settings)
    (file : Text) : DumpError → Prop
  /-- The file's name is too long. -/
  | tooLong :
      fs.TooLong (Path.ofText file) →
      WorkEscapes around fs settings file (.refused ⟨.nameTooLong, Path.ofText file⟩)
  /-- A directory on the way to the file may not be searched. -/
  | barred :
      fs.Barred (Path.ofText file) →
      WorkEscapes around fs settings file (.refused ⟨.permissionDenied, Path.ofText file⟩)
  /-- The file is there, but the indentation cannot be made. -/
  | indentation {content : Bytes} :
      fs.readFile (Path.ofText file) = .ok content → countLimit ≤ settings.indent →
      WorkEscapes around fs settings file .countTooLarge
  /-- The file is not there, and the line about that is refused. -/
  | notFound :
      NotFile fs (Path.ofText file) → settings.NotFoundRefused around file →
      WorkEscapes around fs settings file .noTitle
  /-- The file is there, no encoding has the name, and the line about that is refused. -/
  | name {content : Bytes} {fault : NameFault} :
      fs.readFile (Path.ofText file) = .ok content → settings.indent < countLimit →
      settings.NameRefused around file fault → WorkEscapes around fs settings file .noTitle

variable {engine : Engine} {around : Surroundings} {fs : FileSystem} {settings : Settings}
  {error : DumpError} {file : Text}

theorem isFile_eq_ok_false_iff {path : Path} : fs.isFile path = .ok false ↔ NotFile fs path := by
  rw [FileSystem.isFile_eq_ok_false_iff]
  exact ⟨fun h => ⟨h.1, h.2.1, h.2.2⟩, fun h => ⟨h.unread, h.short, h.unbarred⟩⟩

/-! ## Lines that are refused -/

/-- A text without commands is not refused. -/
theorem refusals_of_untitled {t : Text} (h : Untitled t) (settings : Settings)
    (around : Surroundings) :
    (settings.refusals around).out t = false ∧ (settings.refusals around).err t = false := by
  simp only [Settings.refusals, Console.asksForTitle_eq_false h, Bool.and_false, and_self]

/-- Only the words about a name can hold a command. -/
theorem untitled_message (h : ∀ fault name, error ≠ .noEncoding fault name) :
    Untitled error.message := by
  rcases hfailure : error.codecFailure? with _ | failure
  · exact Console.escapesAllow_of_visible (DumpError.visible_message h hfailure)
  · rw [DumpError.message_eq hfailure]
    exact failure.inert.untitled

/-- Of the lines about failures, only one about a name can be refused. -/
theorem exists_name_of_refused {noColor : Option Text}
    (h : (settings.refusals around).err (Tint.red.paint noColor (failureLine error)) = true) :
    ∃ fault name, error = .noEncoding fault name := by
  by_contra hother
  have hline : Untitled (failureLine error) := (Console.escapesAllow_of_not_mem (by decide)).append
    (untitled_message fun fault name heq => hother ⟨fault, name, heq⟩)
  rw [(refusals_of_untitled (hline.paint noColor .red) settings around).2] at h
  cases h

/-- The line about a text that is refused is not refused. -/
theorem failOn_noTitle (settings : Settings) (around : Surroundings) (noColor : Option Text)
    (out : List Text) (files : FileSystem) (calls : List EngineCall) :
    failOn (settings.refusals around) noColor out .noTitle files calls =
      ⟨.ok 1, ⟨out, [Tint.red.paint noColor (failureLine .noTitle)]⟩, files, calls⟩ := by
  refine if_neg fun h => ?_
  obtain ⟨fault, name, hname⟩ := exists_name_of_refused h
  cases hname

/-! ## The work -/

section Work

variable [Codecs]

/-- The ways in which the work of the command ends. -/
inductive BodyEnd (refusals : Refusals) (engine : Engine) (clock : DateTime) (noColor : Option Text)
    (fs : FileSystem) (settings : Settings) : BodyOutcome → Prop
  /-- The flags exclude each other. -/
  | conflict {conflict : Conflict} :
      checkFlags settings.quiet settings.verbose settings.print =
        .error (.conflictingFlags conflict) →
      BodyEnd refusals engine clock noColor fs settings
        (refuse refusals fs (Tint.red.paint noColor conflict.message))
  /-- No file is named. -/
  | unnamed :
      settings.file = none →
      BodyEnd refusals engine clock noColor fs settings (refuse refusals fs usageLine)
  /-- The file cannot be looked up. -/
  | lookup {file : Text} {fault : SystemFault} :
      settings.WorksOn file → fs.isFile (Path.ofText file) = .error fault →
      BodyEnd refusals engine clock noColor fs settings
        ⟨.error (.refused ⟨fault, Path.ofText file⟩), ⟨[], []⟩, fs, []⟩
  /-- The file is not there. -/
  | notFound {file : Text} :
      settings.WorksOn file → NotFile fs (Path.ofText file) →
      BodyEnd refusals engine clock noColor fs settings
        (refuse refusals fs (Tint.red.paint noColor (notFoundLine file)))
  /-- The file is there, but the indentation cannot be made. -/
  | countTooLarge {file : Text} {content : Bytes} :
      settings.WorksOn file → fs.readFile (Path.ofText file) = .ok content →
      countLimit ≤ settings.indent →
      BodyEnd refusals engine clock noColor fs settings ⟨.error .countTooLarge, ⟨[], []⟩, fs, []⟩
  /-- The job is run. -/
  | ran {file : Text} {content : Bytes} :
      settings.WorksOn file → fs.readFile (Path.ofText file) = .ok content →
      settings.indent < countLimit →
      BodyEnd refusals engine clock noColor fs settings
        (runOn refusals engine clock noColor fs (settings.job file) settings.outputDirectory
          settings.print settings.verbose)

variable {clock : DateTime}

omit [Codecs] in
theorem checkFlags_eq_error {quiet verbose print : Bool}
    (h : checkFlags quiet verbose print = .error error) :
    ∃ conflict, error = .conflictingFlags conflict := by
  unfold checkFlags at h
  split_ifs at h <;> cases h <;> exact ⟨_, rfl⟩

/-- The work ends in one of these ways. -/
theorem body_ends (refusals : Refusals) (engine : Engine) (clock : DateTime) (noColor : Option Text)
    (fs : FileSystem) (settings : Settings) :
    BodyEnd refusals engine clock noColor fs settings
      (body refusals engine clock noColor fs settings) := by
  unfold body
  cases hflags : checkFlags settings.quiet settings.verbose settings.print with
  | error error =>
    obtain ⟨conflict, rfl⟩ := checkFlags_eq_error hflags
    exact .conflict hflags
  | ok _ =>
    cases hfile : settings.file with
    | none => exact .unnamed hfile
    | some file =>
      have hworks : settings.WorksOn file := ⟨hflags, hfile⟩
      dsimp only
      cases hanswer : fs.isFile (Path.ofText file) with
      | error fault => exact .lookup hworks hanswer
      | ok answer =>
        cases answer with
        | false => exact .notFound hworks (isFile_eq_ok_false_iff.mp hanswer)
        | true =>
          obtain ⟨content, hread⟩ := FileSystem.isFile_eq_ok_true_iff.mp hanswer
          dsimp only
          by_cases hcount : countLimit ≤ settings.indent
          · rw [if_pos hcount]
            exact .countTooLarge hworks hread hcount
          · rw [if_neg hcount]
            exact .ran hworks hread (Nat.not_le.mp hcount)

/-! ## Runs -/

omit [Codecs] in
/-- A run has an exit code, unless the line about its failure is refused. -/
theorem Course.ended_following (script : Script) (files : FileSystem) (calls : List EngineCall)
    (settings : Settings) (around : Surroundings) (noColor : Option Text) (verbose : Bool) :
    let ended := (following script files calls).ended (settings.refusals around) noColor verbose fs
    let printed := script.printed noColor verbose
    (∀ code, ended.exit = .ok code → code ≤ 1) ∧
      ∀ error, ended.exit = .error error ↔
        error = .noTitle ∧ printed.out.findIdx? (settings.refusals around).out = none ∧
          printed.err.any (settings.refusals around).err = true := by
  intro ended printed
  have hscript : (following script files calls).script.printed noColor verbose = printed := rfl
  rcases hout : printed.out.findIdx? (settings.refusals around).out with _ | taken
  · rw [show ended = _ from Course.ended_of_none (hscript ▸ hout), hscript]
    dsimp only
    cases herr : printed.err.any (settings.refusals around).err with
    | false =>
      rw [if_neg Bool.false_ne_true]
      refine ⟨fun code hcode => ?_, fun error => ?_⟩
      · obtain rfl := Except.ok.inj hcode
        split_ifs <;> decide
      · exact iff_of_false (fun h => by cases h) (fun h => Bool.false_ne_true h.2.2)
    | true =>
      rw [if_pos rfl]
      refine ⟨fun code hcode => (by cases hcode), fun error => ?_⟩
      rw [Except.error.injEq]
      exact ⟨fun h => ⟨h.symm, rfl, rfl⟩, fun h => h.1.symm⟩
  · rw [show ended = _ from Course.ended_of_some (hscript ▸ hout), failOn_noTitle]
    refine ⟨fun code hcode => ?_, fun error => ?_⟩
    · obtain rfl := Except.ok.inj hcode
      decide
    · exact iff_of_false (fun h => by cases h) (fun h => by cases h.2.1)

/-- The line about the failure of a run comes up and is refused if and only if it is about the
name. -/
theorem refused_runCourse_iff {content : Bytes}
    (hread : fs.readFile (Path.ofText file) = .ok content) :
    let course := runCourse engine clock fs (settings.job file) settings.outputDirectory
      settings.print
    let printed := course.script.printed (settings.noColor around) settings.verbose
    (printed.out.findIdx? (settings.refusals around).out = none ∧
        printed.err.any (settings.refusals around).err = true) ↔
      ∃ fault, settings.NameRefused around file fault := by
  intro course printed
  have hunread {fault : NameFault} {name : Text}
      (hname : readSource fs file settings.encoding = .error (.noEncoding fault name)) :
      printed = (Script.mk [(settings.job file).readingEntry] []
        [.failed (.noEncoding fault name)]).printed (settings.noColor around) settings.verbose := by
    have hjob : readSource fs (settings.job file).file (settings.job file).encoding =
      .error (.noEncoding fault name) := hname
    show (runCourse _ _ _ _ _ _).script.printed _ _ = _
    rw [runCourse_of_unread hjob]
    rfl
  constructor
  · rintro ⟨hout, herr⟩
    obtain ⟨text, htext, hrefused⟩ := List.any_eq_true.mp herr
    obtain ⟨line, hline, rfl⟩ := List.mem_map.mp htext
    obtain ⟨error, rfl, hfailed⟩ := failed_of_mem_err hline
    obtain ⟨fault, name, rfl⟩ := exists_name_of_refused hrefused
    have hname : readSource fs file settings.encoding = .error (.noEncoding fault name) :=
      hfailed fault name rfl
    obtain ⟨hnamed, hmissing⟩ := (readSource_eq_noEncoding_iff hread).mp hname
    have heq : name = settings.encoding := by simpa using readSource_eq_error hname
    subst heq
    refine ⟨fault, hnamed, hmissing, fun hverbose => ?_, hrefused⟩
    rw [hunread hname, Script.printed, logIf, if_pos hverbose] at hout
    exact List.findIdx?_eq_none_iff.mp hout _ List.mem_cons_self
  · rintro ⟨fault, hrefused⟩
    rw [hunread ((readSource_eq_noEncoding_iff hread).mpr ⟨hrefused.named, hrefused.missing⟩)]
    constructor
    · refine List.findIdx?_eq_none_iff.mpr fun text htext => ?_
      rw [Script.printed, logIf] at htext
      split_ifs at htext with hverbose
      · obtain rfl := List.mem_singleton.mp htext
        exact hrefused.logged hverbose
      · cases htext
    · exact List.any_eq_true.mpr ⟨_, List.mem_singleton.mpr rfl, hrefused.refused⟩

/-- A run of the job on a file that is there has no exit code if and only if no encoding has the
name and the line about that is refused. -/
theorem runOn_exit {content : Bytes} (hread : fs.readFile (Path.ofText file) = .ok content) :
    let ended := runOn (settings.refusals around) engine clock (settings.noColor around) fs
      (settings.job file) settings.outputDirectory settings.print settings.verbose
    (∀ code, ended.exit = .ok code → code ≤ 1) ∧
      ∀ error, ended.exit = .error error ↔
        error = .noTitle ∧ ∃ fault, settings.NameRefused around file fault := by
  intro ended
  obtain ⟨script, files, calls, hcourse⟩ : ∃ script files calls,
      runCourse engine clock fs (settings.job file) settings.outputDirectory settings.print =
        .following script files calls := by
    unfold runCourse
    split_ifs <;> exact ⟨_, _, _, rfl⟩
  have hended : ended = (runCourse engine clock fs (settings.job file) settings.outputDirectory
      settings.print).ended (settings.refusals around) (settings.noColor around) settings.verbose
      fs := runOn_eq ..
  have hiff := @refused_runCourse_iff engine around fs settings file _ clock content hread
  rw [hcourse] at hended hiff
  rw [hended]
  obtain ⟨hle, hexit⟩ := @Course.ended_following fs script files calls settings around
    (settings.noColor around) settings.verbose
  exact ⟨hle, fun error => (hexit error).trans (and_congr_right fun _ => hiff)⟩

omit [Codecs] in
/-- A text without commands is no reason for the work to end without an exit code. -/
theorem refuse_of_untitled {text : Text} (h : Untitled text) :
    refuse (settings.refusals around) fs text = ⟨.ok 1, ⟨[], [text]⟩, fs, []⟩ :=
  if_neg (by rw [(refusals_of_untitled h settings around).2]; exact Bool.false_ne_true)

/-! ## Failures that escape -/

/-- If the file cannot be looked up, that is the failure that escapes. -/
theorem workEscapes_of_error {fault : SystemFault}
    (h : fs.isFile (Path.ofText file) = .error fault) :
    WorkEscapes around fs settings file error ↔ error = .refused ⟨fault, Path.ofText file⟩ := by
  constructor
  · intro hescapes
    cases hescapes with
    | tooLong hlong =>
      cases h.symm.trans (FileSystem.isFile_eq_error_iff.mpr (.inl ⟨rfl, hlong⟩))
      rfl
    | barred hbarred =>
      cases h.symm.trans (FileSystem.isFile_eq_error_iff.mpr (.inr ⟨rfl, hbarred⟩))
      rfl
    | indentation hread _ | name hread _ _ =>
      cases h.symm.trans (FileSystem.isFile_eq_ok_true_iff.mpr ⟨_, hread⟩)
    | notFound hnot _ => cases h.symm.trans (isFile_eq_ok_false_iff.mpr hnot)
  · rintro rfl
    obtain ⟨rfl, hlong⟩ | ⟨rfl, hbarred⟩ := FileSystem.isFile_eq_error_iff.mp h
    · exact .tooLong hlong
    · exact .barred hbarred

/-- If the file is not there, only the refusal of the line about that can escape. -/
theorem workEscapes_of_not_file (h : NotFile fs (Path.ofText file)) :
    WorkEscapes around fs settings file error ↔
      error = .noTitle ∧ settings.NotFoundRefused around file := by
  constructor
  · intro hescapes
    cases hescapes with
    | tooLong hlong => exact absurd hlong h.short
    | barred hbarred => exact absurd hbarred h.unbarred
    | indentation hread _ | name hread _ _ => exact absurd hread (h.unread _)
    | notFound _ hrefused => exact ⟨rfl, hrefused⟩
  · rintro ⟨rfl, hrefused⟩
    exact .notFound h hrefused

/-- If the file is there, the indentation can be the reason, and else the name of the encoding. -/
theorem workEscapes_of_file {content : Bytes}
    (hread : fs.readFile (Path.ofText file) = .ok content) :
    WorkEscapes around fs settings file error ↔
      (error = .countTooLarge ∧ countLimit ≤ settings.indent) ∨
        error = .noTitle ∧ settings.indent < countLimit ∧
          ∃ fault, settings.NameRefused around file fault := by
  have hanswer := FileSystem.isFile_eq_ok_true_iff.mpr ⟨content, hread⟩
  constructor
  · intro hescapes
    cases hescapes with
    | tooLong hlong =>
      cases hanswer.symm.trans (FileSystem.isFile_eq_error_iff.mpr (.inl ⟨rfl, hlong⟩))
    | barred hbarred =>
      cases hanswer.symm.trans (FileSystem.isFile_eq_error_iff.mpr (.inr ⟨rfl, hbarred⟩))
    | indentation _ hcount => exact .inl ⟨rfl, hcount⟩
    | notFound hnot _ => exact absurd hread (hnot.unread _)
    | name _ hcount hrefused => exact .inr ⟨rfl, hcount, _, hrefused⟩
  · rintro (⟨rfl, hcount⟩ | ⟨rfl, hcount, fault, hrefused⟩)
    · exact .indentation hread hcount
    · exact .name hread hcount hrefused

omit [Codecs] in
/-- The settings name one file. -/
theorem exists_worksOn_iff {motive : Text → Prop} (hworks : settings.WorksOn file) :
    (∃ other, settings.WorksOn other ∧ motive other) ↔ motive file := by
  constructor
  · rintro ⟨other, hother, h⟩
    obtain rfl := Option.some.inj (hother.file_eq.symm.trans hworks.file_eq)
    exact h
  · exact fun h => ⟨file, hworks, h⟩

/-- An exit code of the work is 0 or 1, and the failures that escape it are those of
`WorkEscapes`. -/
theorem body_exit (engine : Engine) (around : Surroundings) (fs : FileSystem)
    (settings : Settings) :
    let ended := body (settings.refusals around) engine around.clock (settings.noColor around) fs
      settings
    (∀ code, ended.exit = .ok code → code ≤ 1) ∧
      ∀ error, ended.exit = .error error ↔
        ∃ file, settings.WorksOn file ∧ WorkEscapes around fs settings file error := by
  intro ended
  have hends : BodyEnd (settings.refusals around) engine around.clock (settings.noColor around) fs
    settings ended := body_ends ..
  -- Without a file there is nothing that could escape.
  have hone {text : Text} (h : Untitled text) (hnone : ∀ file, ¬settings.WorksOn file) :
      let ended := refuse (settings.refusals around) fs text
      (∀ code, ended.exit = .ok code → code ≤ 1) ∧
        ∀ error, ended.exit = .error error ↔
          ∃ file, settings.WorksOn file ∧ WorkEscapes around fs settings file error := by
    rw [refuse_of_untitled h]
    refine ⟨fun code hcode => ?_, fun error => iff_of_false (fun h => by cases h) ?_⟩
    · obtain rfl := Except.ok.inj hcode
      decide
    · rintro ⟨file, hworks, -⟩
      exact hnone file hworks
  generalize ended = ended at hends
  cases hends with
  | @conflict conflict hflags =>
    have hline : Untitled (DumpError.conflictingFlags conflict).message :=
      untitled_message (fun _ _ h => by cases h)
    exact hone (hline.paint _ .red) fun file hworks => by cases hflags.symm.trans hworks.flags
  | unnamed hnone =>
    have hline : Untitled usageLine := Console.escapesAllow_of_not_mem (by decide)
    exact hone hline fun file hworks => by cases hnone.symm.trans hworks.file_eq
  | @lookup file fault hworks hanswer =>
    refine ⟨fun code hcode => (by cases hcode), fun error => ?_⟩
    rw [exists_worksOn_iff hworks, workEscapes_of_error hanswer, Except.error.injEq, eq_comm]
  | @notFound file hworks hnot =>
    simp only [exists_worksOn_iff hworks, workEscapes_of_not_file hnot, refuse,
      Settings.NotFoundRefused]
    split_ifs with hrefused
    · refine ⟨fun code hcode => (by cases hcode), fun error => ?_⟩
      rw [Except.error.injEq, eq_comm, and_iff_left hrefused]
    · refine ⟨fun code hcode => ?_, fun error => iff_of_false (fun h => by cases h) ?_⟩
      · obtain rfl := Except.ok.inj hcode
        decide
      · exact fun h => hrefused h.2
  | @countTooLarge file content hworks hread hcount =>
    refine ⟨fun code hcode => (by cases hcode), fun error => ?_⟩
    rw [exists_worksOn_iff hworks, workEscapes_of_file hread, Except.error.injEq]
    refine ⟨fun h => .inl ⟨h.symm, hcount⟩, ?_⟩
    rintro (⟨rfl, -⟩ | ⟨-, hlt, -⟩)
    · rfl
    · exact absurd hcount (Nat.not_le.mpr hlt)
  | @ran file content hworks hread hcount =>
    obtain ⟨hle, hexit⟩ := @runOn_exit engine around fs settings file _ around.clock content hread
    refine ⟨hle, fun error => ?_⟩
    rw [exists_worksOn_iff hworks, workEscapes_of_file hread, hexit]
    refine ⟨fun h => .inr ⟨h.1, hcount, h.2⟩, ?_⟩
    rintro (⟨-, hle⟩ | ⟨rfl, -, h⟩)
    · exact absurd hcount (Nat.not_lt.mpr hle)
    · exact ⟨rfl, h⟩

/-- Without a file, the work is the line about that. -/
theorem body_of_not_file (hworks : settings.WorksOn file) (hnot : NotFile fs (Path.ofText file))
    (refusals : Refusals) (clock : DateTime) (noColor : Option Text) :
    body refusals engine clock noColor fs settings =
      refuse refusals fs (Tint.red.paint noColor (notFoundLine file)) := by
  have hanswer := isFile_eq_ok_false_iff.mpr hnot
  simp only [body, hworks.flags, hworks.file_eq, hanswer]

end Work

end SyntaxReport.Command
