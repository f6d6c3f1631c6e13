import SyntaxReport.Command.Execute
import SyntaxReport.Proofs.Command.Script
import SyntaxReport.Proofs.Dump.Failure
import SyntaxReport.Proofs.Dump.Frame

/-!
# The course of the work

What the work of the command comes to is a matter of the file, of the job and of the clock: the exit
code, what is said, the file system and the engine calls. The flags for the looks, `quiet`,
`verbose` and `colorOff`, have no part in it.

Results:
* `runCourse_of_unread`, `failed_of_mem_err`: what is said when the source cannot be read.
* `course_says`: what the script of the course can hold.
-/

namespace SyntaxReport.Command

open Calendar (DateTime Moment)
open Console (Tint)

variable [Codecs]

/-- What the work comes to, apart from its looks. -/
structure Course where
  exit : Except DumpError Nat
  script : Script
  files : FileSystem
  calls : List EngineCall

/-- The course of work that is given up before there is a job. -/
def Course.halted (exit : Except DumpError Nat) (lines : List Line) (fs : FileSystem) : Course :=
  ⟨exit, ⟨[], [], lines⟩, fs, []⟩

/-- The course of work that does what a script says: it succeeds if that has no line about a
failure. -/
def Course.following (script : Script) (fs : FileSystem) (calls : List EngineCall) : Course :=
  ⟨.ok (if script.err.isEmpty then 0 else 1), script, fs, calls⟩

/-- The course of a run. -/
def runCourse (engine : Engine) (clock : DateTime) (fs : FileSystem) (job : Job) (directory : Text)
    (print : Bool) : Course :=
  if print then
    let built := buildReport engine fs job (momentOf clock)
    .following (printingScript job.file built) fs built.calls
  else
    let (fs, dumped) := dumpFile engine fs job directory (momentOf clock)
    .following (savingScript job.file dumped) fs dumped.calls

/-- The course of the work with flags that do not exclude each other. -/
def course (engine : Engine) (clock : DateTime) (fs : FileSystem) (settings : Settings) : Course :=
  match settings.file with
  | none => .halted (.ok 1) [.plain usageLine] fs
  | some file =>
    let path := Path.ofText file
    match fs.isFile path with
    | .error fault => .halted (.error (.refused ⟨fault, path⟩)) [] fs
    | .ok false => .halted (.ok 1) [⟨some .red, notFoundLine file⟩] fs
    | .ok true =>
      if countLimit ≤ settings.indent then .halted (.error .countTooLarge) [] fs
      else runCourse engine clock fs (settings.job file) settings.outputDirectory settings.print

variable {engine : Engine} {clock : DateTime} {fs : FileSystem} {settings : Settings} {job : Job}
  {directory : Text}

/-! ## What a script can hold -/

/-- The entries that a job can log. -/
inductive JobEntry (job : Job) (directory : Text) : Text → Prop
  | reading : JobEntry job directory job.readingEntry
  | parsing : JobEntry job directory job.parsingEntry
  | formatting (tree : Text) : JobEntry job directory (Job.formattingEntry tree)
  | writing : JobEntry job directory (Job.writingEntry (outputPath job.file directory))

/-- The lines that a job can print, after the given calls of the engine. -/
inductive JobLine (engine : Engine) (job : Job) (directory : Text) (calls : List EngineCall) :
    Line → Prop
  | parsed : JobLine engine job directory calls (.parsed job.file)
  | saved : JobLine engine job directory calls (.saved (outputPath job.file directory))
  /-- The only name that may be that of no encoding is the job's. -/
  | failed {error : DumpError} :
      (∀ fault name, error = .noEncoding fault name → name = job.encoding) →
      JobLine engine job directory calls (.failed error)
  /-- The report shows what the engine has answered. -/
  | report {call : EngineCall} {report : Report} {text : Text} :
      call ∈ calls → report.sourcePath = job.file →
      layoutTree job.indent (engine call.language call.source) = .ok report.treeText →
      report.render = .ok text → JobLine engine job directory calls (.plain text)

theorem buildReport_entries {now : Moment} :
    ∀ entry ∈ (buildReport engine fs job now).entries, JobEntry job directory entry := by
  have hend := buildReport_ends engine fs job now
  generalize buildReport engine fs job now = attempt at hend
  intro entry hentry
  cases hend with
  | unread _ =>
    obtain rfl := List.mem_singleton.mp hentry
    exact .reading
  | unknownLanguage _ _ | unparsable _ _ _ =>
    simp only [List.mem_cons, List.not_mem_nil, or_false] at hentry
    obtain rfl | rfl := hentry
    · exact .reading
    · exact .parsing
  | unbalanced _ _ _ | built _ _ _ =>
    simp only [List.mem_cons, List.not_mem_nil, or_false] at hentry
    obtain rfl | rfl | rfl := hentry
    · exact .reading
    · exact .parsing
    · exact .formatting _

theorem dumpFile_entries {now : Moment} :
    ∀ entry ∈ (dumpFile engine fs job directory now).2.entries, JobEntry job directory entry := by
  intro entry hentry
  rw [(dumpFile_log engine fs job now directory).2] at hentry
  rcases List.mem_append.mp hentry with hbuilding | hwriting
  · exact buildReport_entries entry hbuilding
  · cases hbuilt : (buildReport engine fs job now).result with
    | error error =>
      rw [hbuilt] at hwriting
      cases hwriting
    | ok report =>
      rw [hbuilt] at hwriting
      obtain rfl := List.mem_singleton.mp hwriting
      exact .writing

omit [Codecs] in
theorem savingScript_entries {file : Text} {dumped : Attempt Path} :
    (savingScript file dumped).entries = dumped.entries := by
  unfold savingScript
  cases dumped.result <;> rfl

omit [Codecs] in
theorem printingScript_entries {file : Text} {built : Attempt Report} :
    (printingScript file built).entries = built.entries := by
  unfold printingScript
  cases built.result with
  | error error => rfl
  | ok report =>
    dsimp only
    cases report.render <;> rfl

/-- A run that saves its report prints the two confirmations, or the line about a failure. -/
theorem savingScript_lines {now : Moment} :
    let dumped := (dumpFile engine fs job directory now).2
    let script := savingScript job.file dumped
    ∀ line ∈ script.out ++ script.err, JobLine engine job directory dumped.calls line := by
  intro dumped script line hline
  simp only [script, savingScript] at hline
  cases hresult : dumped.result with
  | error error =>
    rw [hresult] at hline
    obtain rfl := List.mem_singleton.mp hline
    refine .failed fun fault name hname => ?_
    subst hname
    exact encoding_of_dumpFile_eq_error hresult
  | ok path =>
    rw [hresult] at hline
    obtain ⟨rfl, -⟩ := dumpFile_ends_well hresult
    simp only [List.append_nil, List.mem_cons, List.not_mem_nil, or_false] at hline
    obtain rfl | rfl := hline
    · exact .parsed
    · exact .saved

/-- A run that prints its report prints a confirmation and the report, or the line about a failure,
which may follow the confirmation. -/
theorem printingScript_lines {now : Moment} :
    let built := buildReport engine fs job now
    let script := printingScript job.file built
    ∀ line ∈ script.out ++ script.err, JobLine engine job directory built.calls line := by
  intro built script line hline
  simp only [script, printingScript] at hline
  have hend : BuildEnd engine fs job now built := buildReport_ends engine fs job now
  cases hresult : built.result with
  | error error =>
    rw [hresult] at hline
    obtain rfl := List.mem_singleton.mp hline
    refine .failed fun fault name hname => ?_
    subst hname
    exact encoding_of_buildReport_eq_error hresult
  | ok report =>
    rw [hresult] at hline
    dsimp only at hline
    cases hrender : report.render with
    | error error =>
      rw [hrender] at hline
      simp only [List.singleton_append, List.mem_cons, List.not_mem_nil, or_false] at hline
      obtain rfl | rfl := hline
      · exact .parsed
      · -- Rendering needs no encoding.
        refine .failed fun fault name hname => ?_
        subst hname
        exact absurd (.inl ⟨fault, name, rfl⟩) (Report.not_isOfEncoding_of_render hrender)
    | ok text =>
      rw [hrender] at hline
      simp only [List.append_nil, List.mem_cons, List.not_mem_nil, or_false] at hline
      obtain rfl | rfl := hline
      · exact .parsed
      · generalize built = attempt at hend hresult
        cases hend with
        | built _ _ hlayout =>
          obtain rfl := Except.ok.inj hresult
          exact .report List.mem_cons_self rfl hlayout hrender
        | unread _ | unknownLanguage _ _ | unparsable _ _ _ | unbalanced _ _ _ => cases hresult

/-- What a run says is what its job can say. -/
theorem runCourse_says (engine : Engine) (clock : DateTime) (fs : FileSystem) (job : Job)
    (directory : Text) (print : Bool) :
    let course := runCourse engine clock fs job directory print
    (∀ entry ∈ course.script.entries, JobEntry job directory entry) ∧
      ∀ line ∈ course.script.out ++ course.script.err,
        JobLine engine job directory course.calls line := by
  cases print with
  | false =>
    refine ⟨fun entry hentry => ?_, savingScript_lines⟩
    exact dumpFile_entries entry (savingScript_entries ▸ hentry)
  | true =>
    refine ⟨fun entry hentry => ?_, printingScript_lines⟩
    exact buildReport_entries entry (printingScript_entries ▸ hentry)

/-- A run that cannot read its source says so, and nothing else. -/
theorem runCourse_of_unread {error : DumpError} {print : Bool}
    (h : readSource fs job.file job.encoding = .error error) :
    runCourse engine clock fs job directory print =
      .following ⟨[job.readingEntry], [], [.failed error]⟩ fs [] := by
  have hbuilt : buildReport engine fs job (momentOf clock) =
      ⟨.error error, [job.readingEntry], []⟩ := by
    rw [buildReport_eq, h]
  unfold runCourse
  cases print with
  | false =>
    rw [if_neg Bool.false_ne_true, dumpFile_eq, hbuilt]
    rfl
  | true =>
    rw [if_pos rfl, hbuilt]
    rfl

/-- What a run says on the error stream is that it has failed. It fails for a name only if the
source cannot be read for that. -/
theorem failed_of_mem_err {print : Bool} {line : Line}
    (h : line ∈ (runCourse engine clock fs job directory print).script.err) :
    ∃ error, line = .failed error ∧ ∀ fault name, error = .noEncoding fault name →
      readSource fs job.file job.encoding = .error error := by
  cases print with
  | false =>
    change line ∈ (savingScript _ (dumpFile engine fs job directory (momentOf clock)).2).err at h
    unfold savingScript at h
    cases hresult : (dumpFile engine fs job directory (momentOf clock)).2.result with
    | error error =>
      rw [hresult] at h
      refine ⟨error, List.mem_singleton.mp h, fun fault name hname => ?_⟩
      subst hname
      exact dumpFile_eq_noEncoding_iff.mp hresult
    | ok path =>
      rw [hresult] at h
      cases h
  | true =>
    change line ∈ (printingScript _ (buildReport engine fs job (momentOf clock))).err at h
    unfold printingScript at h
    cases hresult : (buildReport engine fs job (momentOf clock)).result with
    | error error =>
      rw [hresult] at h
      refine ⟨error, List.mem_singleton.mp h, fun fault name hname => ?_⟩
      subst hname
      exact buildReport_eq_noEncoding_iff.mp hresult
    | ok report =>
      rw [hresult] at h
      dsimp only at h
      cases hrender : report.render with
      | error error =>
        rw [hrender] at h
        refine ⟨error, List.mem_singleton.mp h, fun fault name hname => ?_⟩
        -- Rendering needs no encoding.
        subst hname
        exact absurd (.inl ⟨fault, name, rfl⟩) (Report.not_isOfEncoding_of_render hrender)
      | ok text =>
        rw [hrender] at h
        cases h

/-- What the work says is the usage, the line about a file that is not there, or what the job on the
file can say. -/
theorem course_says (engine : Engine) (clock : DateTime) (fs : FileSystem) (settings : Settings) :
    let course := course engine clock fs settings
    (∀ entry ∈ course.script.entries, ∃ file ∈ settings.file,
      JobEntry (settings.job file) settings.outputDirectory entry) ∧
    ∀ line ∈ course.script.out ++ course.script.err,
      line = .plain usageLine ∨ ∃ file ∈ settings.file, line = ⟨some .red, notFoundLine file⟩ ∨
        JobLine engine (settings.job file) settings.outputDirectory course.calls line := by
  unfold course
  cases settings.file with
  | none =>
    refine ⟨List.forall_mem_nil _, fun line hline => ?_⟩
    exact .inl (List.mem_singleton.mp hline)
  | some file =>
    dsimp only
    cases fs.isFile (Path.ofText file) with
    | error fault => exact ⟨List.forall_mem_nil _, List.forall_mem_nil _⟩
    | ok answer =>
      cases answer with
      | false =>
        refine ⟨List.forall_mem_nil _, fun line hline => ?_⟩
        exact .inr ⟨file, rfl, .inl (List.mem_singleton.mp hline)⟩
      | true =>
        dsimp only
        split_ifs with hcount
        · exact ⟨List.forall_mem_nil _, List.forall_mem_nil _⟩
        · obtain ⟨hentries, hlines⟩ := runCourse_says engine clock fs (settings.job file)
            settings.outputDirectory settings.print
          exact ⟨fun entry hentry => ⟨file, rfl, hentries entry hentry⟩,
            fun line hline => .inr ⟨file, rfl, .inr (hlines line hline)⟩⟩

end SyntaxReport.Command
