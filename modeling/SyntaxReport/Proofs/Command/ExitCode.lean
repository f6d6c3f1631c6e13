import SyntaxReport.Proofs.Command.Exit

/-!
# What the exit code means

Exit code 0 goes with an empty error stream, and 2 with an argument list that is not accepted. In
between lies the work of the command: as long as it has not come to the run of the job, ending with
1 means that nothing has been done, and from there on the outcome is that of the job. But if the
output stream refuses a text of the run, the exit code is 1, even if the job has succeeded by then.

Results:
* `err_eq_nil_iff`: nothing on the error stream means exit code 0.
* `execute_of_refuse`, `execute_of_conflict`, `execute_of_unnamed`: how the work is refused.
* `execute_of_saving`, `execute_of_printing`: otherwise the job is run, and saved or shown.
* `execute_exit_meaning`: what each exit code says, for all argument lists.
* `refused_confirmation`: a dump that returns, and a run that fails all the same.
-/

namespace SyntaxReport.Command

open Calendar (DateTime)
open Console (Tint)

variable {engine : Engine} {around : Surroundings} {fs : FileSystem} {arguments : List Text}
  {settings : Settings} {file : Text} {code : Nat}

/-- Nothing has been done, and nothing said on the output stream. -/
structure Outcome.Idle (ended : Outcome) (fs : FileSystem) : Prop where
  files_eq : ended.files = fs
  calls_eq : ended.calls = []
  out_eq : ended.out = []

/-! ## Streams -/

theorem printedText_eq_nil_iff {texts : List Text} : printedText texts = [] ↔ texts = [] := by
  cases texts with
  | nil => simp [printedText]
  | cons text more => simp [printedText]

/-- Each text takes a line on its stream, even if nothing of it is shown. -/
theorem filter_eq_nil_iff {texts : List Text} : settings.filter around texts = [] ↔ texts = [] := by
  unfold Settings.filter
  split_ifs with hraw
  · exact printedText_eq_nil_iff
  · rw [printedText_eq_nil_iff, List.map_eq_nil_iff]

theorem filter_append (settings : Settings) (around : Surroundings) (first second : List Text) :
    settings.filter around (first ++ second) =
      settings.filter around first ++ settings.filter around second := by
  unfold Settings.filter printedText
  split_ifs with hraw
  · rw [List.flatMap_append]
  · rw [List.map_append, List.flatMap_append]

/-! ## The work -/

section Work

variable [Codecs]

/-- With accepted settings, the command is its work. -/
theorem execute_work (h : interpret fs arguments = .ok (.work settings)) :
    execute engine around fs arguments =
      let ended := body (settings.refusals around) engine around.clock (settings.noColor around) fs
        settings
      ⟨ended.exit, if settings.quiet then [] else settings.filter around ended.printed.out,
        settings.filter around ended.printed.err, settings.closing around, ended.files,
        ended.calls⟩ := by
  simp only [execute, h]

/-- A refusal says why on the error stream, if that takes it, and does nothing else. -/
theorem execute_of_refuse (h : interpret fs arguments = .ok (.work settings)) {text : Text}
    (hbody : body (settings.refusals around) engine around.clock (settings.noColor around) fs
      settings = refuse (settings.refusals around) fs text)
    (hcode : (execute engine around fs arguments).exit = .ok code) :
    let ended := execute engine around fs arguments
    code = 1 ∧ ended.Idle fs ∧ ended.err = settings.filter around [text] := by
  have hempty : settings.filter around [] = [] := filter_eq_nil_iff.mpr rfl
  rw [execute_work h, hbody] at hcode ⊢
  unfold refuse at hcode ⊢
  by_cases hrefused : (settings.refusals around).err text
  · rw [if_pos hrefused] at hcode
    cases hcode
  · rw [if_neg hrefused] at hcode ⊢
    obtain rfl := Except.ok.inj hcode
    refine ⟨rfl, ⟨rfl, rfl, ?_⟩, rfl⟩
    show (if settings.quiet then [] else settings.filter around []) = []
    rw [hempty, ite_self]

theorem execute_of_conflict (h : interpret fs arguments = .ok (.work settings)) {error : DumpError}
    (hflags : checkFlags settings.quiet settings.verbose settings.print = .error error)
    (hcode : (execute engine around fs arguments).exit = .ok code) :
    let ended := execute engine around fs arguments
    code = 1 ∧ ended.Idle fs ∧
      ended.err = settings.filter around [Tint.red.paint (settings.noColor around) error.message] :=
  execute_of_refuse h (by simp only [body, hflags]) hcode

theorem execute_of_unnamed (h : interpret fs arguments = .ok (.work settings))
    (hflags : checkFlags settings.quiet settings.verbose settings.print = .ok ())
    (hfile : settings.file = none) (hcode : (execute engine around fs arguments).exit = .ok code) :
    let ended := execute engine around fs arguments
    code = 1 ∧ ended.Idle fs ∧ ended.err = settings.filter around [usageLine] :=
  execute_of_refuse h (by simp only [body, hflags, hfile]) hcode

/-- With an exit code, a path that names no file has been looked up. -/
theorem execute_of_unread (h : interpret fs arguments = .ok (.work settings))
    (hworks : settings.WorksOn file)
    (hnone : ∀ content, fs.readFile (Path.ofText file) ≠ .ok content)
    (hcode : (execute engine around fs arguments).exit = .ok code) :
    let ended := execute engine around fs arguments
    code = 1 ∧ ended.Idle fs ∧ ended.err =
      settings.filter around [Tint.red.paint (settings.noColor around) (notFoundLine file)] := by
  have hescapes (error : DumpError) : ¬WorkEscapes around fs settings file error := fun hwork => by
    cases hcode.symm.trans (execute_exit_eq_error_iff.mpr (.work ⟨h, hworks⟩ hwork))
  have hnot : NotFile fs (Path.ofText file) :=
    ⟨hnone, fun hlong => hescapes _ (.tooLong hlong), fun hbarred => hescapes _ (.barred hbarred)⟩
  exact execute_of_refuse h (body_of_not_file hworks hnot ..) hcode

/-- With a file and an exit code, the work is the run of the job. -/
theorem body_of_file {clock : DateTime} {refusals : Refusals} {noColor : Option Text}
    (hworks : settings.WorksOn file) {content : Bytes}
    (hread : fs.readFile (Path.ofText file) = .ok content)
    (hcode : (body refusals engine clock noColor fs settings).exit = .ok code) :
    body refusals engine clock noColor fs settings =
      (runCourse engine clock fs (settings.job file) settings.outputDirectory settings.print).ended
        refusals noColor settings.verbose fs := by
  have hanswer := FileSystem.isFile_eq_ok_true_iff.mpr ⟨content, hread⟩
  simp only [body, hworks.flags, hworks.file_eq, hanswer] at hcode ⊢
  by_cases hcount : countLimit ≤ settings.indent
  · -- An indentation that cannot be made ends the work without an exit code.
    rw [if_pos hcount] at hcode
    cases hcode
  · rw [if_neg hcount]
    exact runOn_eq ..

omit [Codecs] in
/-- How a run ends that has an exit code: if the output stream refuses no text of the script, as the
script says, and otherwise with exit code 1, in front of the first text that is refused. -/
theorem Course.ended_meaning (script : Script) (files : FileSystem) (calls : List EngineCall)
    (settings : Settings) (around : Surroundings) (noColor : Option Text) (verbose : Bool)
    (hcode : ((following script files calls).ended (settings.refusals around) noColor verbose
      fs).exit = .ok code) :
    let ended := (following script files calls).ended (settings.refusals around) noColor verbose fs
    let texts := (script.printed noColor verbose).out
    let logged := (logIf verbose noColor script.entries).length
    ((∀ text ∈ texts, (settings.refusals around).out text = false) →
      (code = 0 ↔ script.err = []) ∧ ended.files = files ∧ ended.calls = calls ∧
      ended.printed.out = texts) ∧
    ∀ taken, texts.findIdx? (settings.refusals around).out = some taken →
      code = 1 ∧ ended.files = (if taken < logged then fs else files) ∧
      ended.calls = (if taken < logged ∧ taken < 2 then [] else calls) ∧
      ended.printed.out = texts.take taken := by
  intro ended texts logged
  have hscript : (following script files calls).script.printed noColor verbose =
    script.printed noColor verbose := rfl
  change ended.exit = .ok code at hcode
  constructor
  · intro haccepted
    have hnone : texts.findIdx? (settings.refusals around).out = none :=
      List.findIdx?_eq_none_iff.mpr haccepted
    rw [show ended = _ from Course.ended_of_none (hscript ▸ hnone), hscript] at hcode ⊢
    dsimp only at hcode ⊢
    by_cases hrefused : (script.printed noColor verbose).err.any (settings.refusals around).err
    · rw [if_pos hrefused] at hcode
      cases hcode
    · rw [if_neg hrefused] at hcode ⊢
      obtain rfl := Except.ok.inj hcode
      refine ⟨?_, rfl, rfl, rfl⟩
      rw [← List.isEmpty_iff]
      split_ifs with hempty <;> simp [hempty]
  · intro taken hfirst
    rw [show ended = _ from Course.ended_of_some hfirst, failOn_noTitle] at hcode ⊢
    exact ⟨(Except.ok.inj hcode).symm, rfl, rfl, rfl⟩

/-- The work ends with exit code 0 if and only if it says nothing on the error stream. -/
def BodyOutcome.Frank (ended : BodyOutcome) : Prop :=
  ∀ code, ended.exit = .ok code → (code = 0 ↔ ended.printed.err = [])

omit [Codecs] in
theorem frank_refuse (refusals : Refusals) (fs : FileSystem) (text : Text) :
    (refuse refusals fs text).Frank := by
  unfold refuse
  split_ifs <;> rintro code ⟨⟩
  exact iff_of_false Nat.one_ne_zero (List.cons_ne_nil _ _)

omit [Codecs] in
theorem frank_failOn (refusals : Refusals) (noColor : Option Text) (out : List Text)
    (error : DumpError) (files : FileSystem) (calls : List EngineCall) :
    (failOn refusals noColor out error files calls).Frank := by
  unfold failOn
  dsimp only
  split_ifs <;> rintro code ⟨⟩
  exact iff_of_false Nat.one_ne_zero (List.cons_ne_nil _ _)

omit [Codecs] in
theorem Course.frank_following (script : Script) (files : FileSystem) (calls : List EngineCall)
    (refusals : Refusals) (noColor : Option Text) (verbose : Bool) :
    ((following script files calls).ended refusals noColor verbose fs).Frank := by
  unfold Course.ended
  dsimp only
  split
  · exact frank_failOn _ _ _ _ _ _
  · split_ifs with hrefused <;> rintro code ⟨⟩
    rw [Script.printed_err_eq_nil_iff, ← List.isEmpty_iff]
    show (if script.err.isEmpty then 0 else 1) = 0 ↔ script.err.isEmpty = true
    split_ifs with hempty <;> simp [hempty]

theorem BodyEnd.frank {refusals : Refusals} {clock : DateTime} {noColor : Option Text}
    {ended : BodyOutcome} (h : BodyEnd refusals engine clock noColor fs settings ended) :
    ended.Frank := by
  cases h with
  | conflict _ | unnamed _ | notFound _ _ => exact frank_refuse _ _ _
  | lookup _ _ | countTooLarge _ _ _ => rintro code ⟨⟩
  | ran _ _ _ =>
    rw [runOn_eq]
    unfold runCourse
    split_ifs <;> exact Course.frank_following _ _ _ _ _ _

/-! ## The command -/

/-- The exit code is 0 if and only if the error stream is empty. -/
theorem err_eq_nil_iff (hcode : (execute engine around fs arguments).exit = .ok code) :
    code = 0 ↔ (execute engine around fs arguments).err = [] := by
  unfold execute at hcode ⊢
  cases hinterpret : interpret fs arguments with
  | error rejection =>
    rw [hinterpret] at hcode
    cases rejection with
    | usage error =>
      obtain rfl := Except.ok.inj hcode
      refine iff_of_false (by decide) fun h => ?_
      cases printedText_eq_nil_iff.mp h
    | failure error => cases hcode
  | ok invocation =>
    rw [hinterpret] at hcode
    cases invocation with
    | notice notice =>
      obtain rfl := Except.ok.inj hcode
      exact iff_of_true rfl rfl
    | work settings =>
      have hends := body_ends (settings.refusals around) engine around.clock
        (settings.noColor around) fs settings
      exact (hends.frank code hcode).trans filter_eq_nil_iff.symm

/-- The exit code is 2 if and only if the argument list is not accepted, and then nothing is done.
-/
theorem exit_eq_two_iff (hcode : (execute engine around fs arguments).exit = .ok code) :
    (code = 2 ↔ ∃ error, interpret fs arguments = .error (.usage error)) ∧
      (code = 2 → (execute engine around fs arguments).Idle fs) := by
  unfold execute at hcode ⊢
  cases hinterpret : interpret fs arguments with
  | error rejection =>
    rw [hinterpret] at hcode
    cases rejection with
    | usage error =>
      obtain rfl := Except.ok.inj hcode
      exact ⟨iff_of_true rfl ⟨error, rfl⟩, fun _ => ⟨rfl, rfl, rfl⟩⟩
    | failure error => cases hcode
  | ok invocation =>
    have hother : code ≠ 2 := by
      rw [hinterpret] at hcode
      cases invocation with
      | notice notice =>
        obtain rfl := Except.ok.inj hcode
        decide
      | work settings =>
        have hle := (body_exit engine around fs settings).1 code hcode
        omega
    refine ⟨iff_of_false hother ?_, fun h => absurd h hother⟩
    rintro ⟨error, h⟩
    cases h

/-- When the process ends, a terminal may get its colours back, and nothing else is written. -/
theorem closing_eq_nil_or :
    let ended := execute engine around fs arguments
    ended.closing = [] ∨ around.terminal ∧ ended.closing = Console.sequence ['0'] := by
  unfold execute
  split
  · exact .inl rfl
  · exact .inl rfl
  · exact .inl rfl
  · dsimp only
    unfold Settings.closing
    split_ifs with hshown
    · simp only [Bool.and_eq_true] at hshown
      exact .inr ⟨hshown.1.1, rfl⟩
    · exact .inl rfl

/-- The lines that confirm a dump which has returned. -/
def confirmations (noColor : Option Text) (file : Text) (dumped : Attempt Path) : List Text :=
  match dumped.result with
  | .ok path =>
    [Tint.green.paint noColor (parsedLine file), Tint.green.paint noColor (savedLine path)]
  | .error _ => []

omit [Codecs] in
/-- What a run that saves prints on the output stream: its log, and the confirmations. -/
theorem savingScript_out (noColor : Option Text) (file : Text) (dumped : Attempt Path)
    (verbose : Bool) :
    ((savingScript file dumped).printed noColor verbose).out =
      logIf verbose noColor dumped.entries ++ confirmations noColor file dumped := by
  unfold savingScript confirmations
  cases dumped.result <;> rfl

/-- The lines that confirm a report which has been built, and the report. -/
def shownReport (noColor : Option Text) (file : Text) (built : Attempt Report) : List Text :=
  match built.result with
  | .ok report => Tint.green.paint noColor (parsedLine file) :: report.render.toOption.toList
  | .error _ => []

omit [Codecs] in
/-- What a run that prints its report prints on the output stream. -/
theorem printingScript_out (noColor : Option Text) (file : Text) (built : Attempt Report)
    (verbose : Bool) :
    ((printingScript file built).printed noColor verbose).out =
      logIf verbose noColor built.entries ++ shownReport noColor file built := by
  unfold printingScript shownReport
  cases built.result with
  | error error => rfl
  | ok report =>
    dsimp only
    cases report.render <;> rfl

/-- How the command ends whose work comes to the run of the job, by the script of this run. -/
theorem execute_of_following (h : interpret fs arguments = .ok (.work settings))
    (hworks : settings.WorksOn file) {content : Bytes}
    (hread : fs.readFile (Path.ofText file) = .ok content) {script : Script} {files : FileSystem}
    {calls : List EngineCall}
    (hcourse : runCourse engine around.clock fs (settings.job file) settings.outputDirectory
      settings.print = .following script files calls)
    (hcode : (execute engine around fs arguments).exit = .ok code) :
    let ended := execute engine around fs arguments
    let noColor := settings.noColor around
    let refuses := (settings.refusals around).out
    let shown (texts : List Text) := if settings.quiet then [] else settings.filter around texts
    let texts := (script.printed noColor settings.verbose).out
    let logged := (logIf settings.verbose noColor script.entries).length
    ((∀ text ∈ texts, refuses text = false) →
      (code = 0 ↔ script.err = []) ∧ ended.files = files ∧ ended.calls = calls ∧
      ended.out = shown texts) ∧
    ∀ taken, texts.findIdx? refuses = some taken →
      code = 1 ∧ ended.files = (if taken < logged then fs else files) ∧
      ended.calls = (if taken < logged ∧ taken < 2 then [] else calls) ∧
      ended.out = shown (texts.take taken) := by
  rw [execute_work h] at hcode ⊢
  have hbody := body_of_file hworks hread hcode
  rw [hbody, hcourse] at hcode
  rw [hbody, hcourse]
  intro ended noColor refuses shown texts logged
  obtain ⟨hall, hsome⟩ := Course.ended_meaning _ _ _ _ _ _ _ hcode
  refine ⟨fun haccepted => ?_, fun taken hfirst => ?_⟩
  · obtain ⟨hzero, hfiles, hcalls, hout⟩ := hall haccepted
    exact ⟨hzero, hfiles, hcalls, congrArg shown hout⟩
  · obtain ⟨hone, hfiles, hcalls, hout⟩ := hsome taken hfirst
    exact ⟨hone, hfiles, hcalls, congrArg shown hout⟩

/-- How the command ends whose work comes to the dump of its source. -/
theorem execute_of_saving (h : interpret fs arguments = .ok (.work settings))
    (hworks : settings.WorksOn file) {content : Bytes}
    (hread : fs.readFile (Path.ofText file) = .ok content) (hprint : settings.print = false)
    (hcode : (execute engine around fs arguments).exit = .ok code) :
    let ended := execute engine around fs arguments
    let noColor := settings.noColor around
    let refuses := (settings.refusals around).out
    let shown (texts : List Text) := if settings.quiet then [] else settings.filter around texts
    let dumped := dumpFile engine fs (settings.job file) settings.outputDirectory
      (momentOf around.clock)
    let log := logIf settings.verbose noColor dumped.2.entries
    let texts := log ++ confirmations noColor file dumped.2
    ((∀ text ∈ texts, refuses text = false) →
      (code = 0 ↔ ∃ path, dumped.2.result = .ok path) ∧
      ended.files = dumped.1 ∧ ended.calls = dumped.2.calls ∧ ended.out = shown texts) ∧
    ∀ taken, texts.findIdx? refuses = some taken →
      code = 1 ∧ ended.files = (if taken < log.length then fs else dumped.1) ∧
      ended.calls = (if taken < log.length ∧ taken < 2 then [] else dumped.2.calls) ∧
      ended.out = shown (texts.take taken) := by
  intro ended noColor refuses shown dumped
  have hcourse : runCourse engine around.clock fs (settings.job file) settings.outputDirectory
      settings.print = .following (savingScript file dumped.2) dumped.1 dumped.2.calls := by
    rw [hprint]
    rfl
  obtain ⟨hall, hsome⟩ := execute_of_following h hworks hread hcourse hcode
  rw [savingScript_out, savingScript_err_eq_nil_iff] at hall
  rw [savingScript_out, savingScript_entries] at hsome
  exact ⟨hall, hsome⟩

/-- How the command ends whose work comes to the report it prints: the file system is left alone. -/
theorem execute_of_printing (h : interpret fs arguments = .ok (.work settings))
    (hworks : settings.WorksOn file) {content : Bytes}
    (hread : fs.readFile (Path.ofText file) = .ok content) (hprint : settings.print = true)
    (hcode : (execute engine around fs arguments).exit = .ok code) :
    let ended := execute engine around fs arguments
    let noColor := settings.noColor around
    let refuses := (settings.refusals around).out
    let shown (texts : List Text) := if settings.quiet then [] else settings.filter around texts
    let built := buildReport engine fs (settings.job file) (momentOf around.clock)
    let log := logIf settings.verbose noColor built.entries
    let texts := log ++ shownReport noColor file built
    ended.files = fs ∧
    ((∀ text ∈ texts, refuses text = false) →
      (code = 0 ↔ ∃ report text, built.result = .ok report ∧ report.render = .ok text) ∧
      ended.calls = built.calls ∧ ended.out = shown texts) ∧
    ∀ taken, texts.findIdx? refuses = some taken →
      code = 1 ∧ ended.calls = (if taken < log.length ∧ taken < 2 then [] else built.calls) ∧
      ended.out = shown (texts.take taken) := by
  intro ended noColor refuses shown built log texts
  have hcourse : runCourse engine around.clock fs (settings.job file) settings.outputDirectory
      settings.print = .following (printingScript file built) fs built.calls := by
    rw [hprint]
    rfl
  obtain ⟨hall, hsome⟩ := execute_of_following h hworks hread hcourse hcode
  rw [printingScript_out, printingScript_err_eq_nil_iff] at hall
  rw [printingScript_out, printingScript_entries] at hsome
  refine ⟨?_, fun haccepted => ?_, fun taken hfirst => ?_⟩
  · -- Whether a text is refused or not, there are no other files to come to.
    rcases hfirst : texts.findIdx? refuses with _ | taken
    · exact (hall (List.findIdx?_eq_none_iff.mp hfirst)).2.1
    · exact (hsome taken hfirst).2.1.trans (ite_self _)
  · obtain ⟨hzero, -, hcalls, hout⟩ := hall haccepted
    exact ⟨hzero, hcalls, hout⟩
  · obtain ⟨hone, -, hcalls, hout⟩ := hsome taken hfirst
    exact ⟨hone, hcalls, hout⟩

/-- What the exit code of the command means, whatever its arguments and the file system. It is 0 if
and only if the error stream is empty, and 2 if and only if the argument list is not accepted; then,
nothing is done. A notice ends with 0 and does nothing. The work ends with 1 and does nothing but
say why if its flags exclude each other, or else no file is named, or else the file is none.
Otherwise the job is run. Without `print`, the exit code is 0 if and only if the dump returns, the
file system is as the dump leaves it, and both confirmations are printed if and only if it returns
and the command is not quiet. With `print`, the exit code is 0 if and only if the report is built
and rendered, and the file system stays as it is. All that holds of a run as long as the output
stream refuses no text. If it refuses one, the exit code is 1, nothing is printed from that text on,
and nothing is done that comes behind it. At the end of the process, a terminal may get its colours
back. -/
theorem execute_exit_meaning (engine : Engine) (around : Surroundings) (fs : FileSystem)
    (arguments : List Text) {code : Nat}
    (hcode : (execute engine around fs arguments).exit = .ok code) :
    let ended := execute engine around fs arguments
    (code = 0 ↔ ended.err = []) ∧
    (code = 2 ↔ ∃ error, interpret fs arguments = .error (.usage error)) ∧
    (code = 2 → ended.Idle fs) ∧
    (ended.closing = [] ∨ around.terminal ∧ ended.closing = Console.sequence ['0']) ∧
    (∀ notice, interpret fs arguments = .ok (.notice notice) →
      code = 0 ∧ ended.files = fs ∧ ended.calls = []) ∧
    ∀ settings, interpret fs arguments = .ok (.work settings) →
      let noColor := settings.noColor around
      let refuses := (settings.refusals around).out
      let shown (texts : List Text) := if settings.quiet then [] else settings.filter around texts
      let refusedWith (text : Text) :=
        code = 1 ∧ ended.Idle fs ∧ ended.err = settings.filter around [text]
      (∀ error, checkFlags settings.quiet settings.verbose settings.print = .error error →
        refusedWith (Tint.red.paint noColor error.message)) ∧
      (checkFlags settings.quiet settings.verbose settings.print = .ok () → settings.file = none →
        refusedWith usageLine) ∧
      ∀ file, settings.WorksOn file →
        ((∀ content, fs.readFile (Path.ofText file) ≠ .ok content) →
          refusedWith (Tint.red.paint noColor (notFoundLine file))) ∧
        ∀ content, fs.readFile (Path.ofText file) = .ok content →
          let job := settings.job file
          let now := momentOf around.clock
          (settings.print = false →
            let dumped := dumpFile engine fs job settings.outputDirectory now
            let log := logIf settings.verbose noColor dumped.2.entries
            let texts := log ++ confirmations noColor file dumped.2
            ((∀ text ∈ texts, refuses text = false) →
              (code = 0 ↔ ∃ path, dumped.2.result = .ok path) ∧
              ended.files = dumped.1 ∧ ended.calls = dumped.2.calls ∧ ended.out = shown texts) ∧
            ∀ taken, texts.findIdx? refuses = some taken →
              code = 1 ∧ ended.files = (if taken < log.length then fs else dumped.1) ∧
              ended.calls = (if taken < log.length ∧ taken < 2 then [] else dumped.2.calls) ∧
              ended.out = shown (texts.take taken)) ∧
          (settings.print = true →
            let built := buildReport engine fs job now
            let log := logIf settings.verbose noColor built.entries
            let texts := log ++ shownReport noColor file built
            ended.files = fs ∧
            ((∀ text ∈ texts, refuses text = false) →
              (code = 0 ↔ ∃ report text, built.result = .ok report ∧ report.render = .ok text) ∧
              ended.calls = built.calls ∧ ended.out = shown texts) ∧
            ∀ taken, texts.findIdx? refuses = some taken →
              code = 1 ∧
              ended.calls = (if taken < log.length ∧ taken < 2 then [] else built.calls) ∧
              ended.out = shown (texts.take taken)) := by
  intro ended
  obtain ⟨htwo, hidle⟩ := exit_eq_two_iff hcode
  refine ⟨err_eq_nil_iff hcode, htwo, hidle, closing_eq_nil_or, fun notice hnotice => ?_,
    fun settings hwork => ?_⟩
  · have hended : ended = ⟨.ok 0, printedText [notice.text], [], [], fs, []⟩ := by
      show execute engine around fs arguments = _
      simp only [execute, hnotice]
    change ended.exit = .ok code at hcode
    rw [hended] at hcode ⊢
    exact ⟨(Except.ok.inj hcode).symm, rfl, rfl⟩
  · exact ⟨fun error hflags => execute_of_conflict hwork hflags hcode,
      fun hflags hnone => execute_of_unnamed hwork hflags hnone hcode,
      fun file hworks => ⟨fun hnone => execute_of_unread hwork hworks hnone hcode,
        fun content hread => ⟨fun hprint => execute_of_saving hwork hworks hread hprint hcode,
          fun hprint => execute_of_printing hwork hworks hread hprint hcode⟩⟩⟩

end Work

open SmallSystem in
/-- A source file that is there is dumped, and the dump confirmed. -/
theorem execute_exit_meaning_source :
    let ended := execute (fun _ _ => "(a b)".toList) plainSurroundings filesWithSource
      ["x.js".toList]
    ended.exit = .ok 0 ∧ ended.err = [] ∧
      ended.out = "✓ Parsed: x.js\n✓ Saved to: parse_results/x.txt\n".toList := by
  intro ended
  have hexit : ended.exit = .ok 0 := rfl
  obtain ⟨herr, -, -, -, -, hwork⟩ := execute_exit_meaning (fun _ _ => "(a b)".toList)
    plainSurroundings filesWithSource ["x.js".toList] hexit
  have haccepts : Accepts filesWithSource ["x.js".toList] (settingsFor "x.js".toList)
      "x.js".toList := accepts_file rfl rfl
  obtain ⟨-, -, hfile⟩ := hwork _ haccepts.interpreted
  obtain ⟨hsaved, -⟩ := (hfile _ haccepts.works).2 [0x78] rfl
  obtain ⟨-, -, -, hout⟩ := (hsaved rfl).1 (by decide +kernel)
  exact ⟨hexit, herr.mp rfl, hout.trans rfl⟩

/-- A source file of that name in the root directory, where the program works. -/
def filesWithTitle : FileSystem :=
  { entries := [([titleName], .file [0x78])]
    workingDirectory := [] }

open SmallSystem in
/-- A dump that returns, and leaves its report, but whose confirmation is refused: the exit code
is 1. -/
theorem refused_confirmation :
    let engine : Engine := fun _ _ => "(a b)".toList
    let ended := execute engine plainSurroundings filesWithTitle [titleName]
    let dumped := dumpFile engine filesWithTitle ((settingsFor titleName).job titleName)
      defaultOutputDirectory (momentOf plainSurroundings.clock)
    ended.exit = .ok 1 ∧ (∃ path, dumped.2.result = .ok path) ∧ ended.files = dumped.1 ∧
      ended.err = failureLine .noTitle ++ ['\n'] :=
  ⟨rfl, ⟨_, rfl⟩, rfl, by decide +kernel⟩

end SyntaxReport.Command
