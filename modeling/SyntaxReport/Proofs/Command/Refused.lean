import SyntaxReport.Proofs.Command.Course
import SyntaxReport.Proofs.Dump.Logged

/-!
# Streams that refuse texts

A run prints text after text, and the first that the output stream refuses ends it: what has been
printed and done before stays, and the refusal is reported as the failure. If the error stream
refuses the line about a failure, there is nothing left to report that to. So what the work comes to
is what such streams make of its course (`Course.ended`).

Results:
* `refusal?_logOn`: a log refuses the entries whose lines the stream refuses.
* `runOn_eq`, `body_eq_course`: a run and the whole work take their course, up to the first text
  that is refused.
* `Course.ended_of_accepted`: all of it, if no text is refused.
-/

namespace SyntaxReport.Command

open Calendar (DateTime)
open Console (Tint logLine logLinesFrom)

/-- How work ends that takes the course, on streams that may refuse texts. Without the first two log
entries the engine is not called, and without one of them nothing is changed. -/
def Course.ended (course : Course) (refusals : Refusals) (noColor : Option Text) (verbose : Bool)
    (fs : FileSystem) : BodyOutcome :=
  let printed := course.script.printed noColor verbose
  let logged := (logIf verbose noColor course.script.entries).length
  match printed.out.findIdx? refusals.out with
  | some taken =>
    failOn refusals noColor (printed.out.take taken) .noTitle
      (if taken < logged then fs else course.files)
      (if taken < logged ∧ taken < 2 then [] else course.calls)
  | none =>
    if printed.err.any refusals.err then
      ⟨.error .noTitle, ⟨printed.out, []⟩, course.files, course.calls⟩
    else ⟨course.exit, printed, course.files, course.calls⟩

/-! ## The log -/

section Logs

variable (refuses : Text → Bool) (verbose : Bool) (noColor : Option Text)

theorem logLinesFrom_take (number : Nat) (entries : List Text) (taken : Nat) :
    logLinesFrom noColor number (entries.take taken) =
      (logLinesFrom noColor number entries).take taken := by
  induction entries generalizing number taken with
  | nil => rw [List.take_nil, logLinesFrom, List.take_nil]
  | cons entry more ih =>
    cases taken with
    | zero => rfl
    | succ taken => rw [List.take_succ_cons, logLinesFrom, ih, logLinesFrom, List.take_succ_cons]

theorem logIf_take (entries : List Text) (taken : Nat) :
    logIf verbose noColor (entries.take taken) = (logIf verbose noColor entries).take taken := by
  unfold logIf
  split_ifs
  · exact logLinesFrom_take noColor 1 entries taken
  · exact List.take_nil.symm

/-- A log refuses an entry if the stream refuses its line. -/
theorem refusal?_logOn (entries : List Text) :
    (logOn refuses verbose noColor).refusal? 1 entries =
      ((logIf verbose noColor entries).findIdx? refuses).map fun taken => (taken, .noTitle) := by
  cases verbose with
  | false =>
    have hwilling (number : Nat) (entry : Text) :
        logOn refuses false noColor number entry = .ok () :=
      if_neg (by rw [Bool.and_false]; exact Bool.false_ne_true)
    show _ = none
    generalize 1 = number
    induction entries generalizing number with
    | nil => rfl
    | cons entry more ih => rw [Log.refusal?_of_ok (hwilling number entry), ih, Option.map_none]
  | true =>
    show _ = ((logLinesFrom noColor 1 entries).findIdx? refuses).map _
    generalize 1 = number
    induction entries generalizing number with
    | nil => rfl
    | cons entry more ih =>
      rw [logLinesFrom, List.findIdx?_cons]
      cases hline : refuses (logLine noColor number entry) with
      | true =>
        have hrefused : logOn refuses true noColor number entry = .error .noTitle :=
          if_pos (by rw [hline]; rfl)
        rw [Log.refusal?_of_error hrefused]
        rfl
      | false =>
        have htaken : logOn refuses true noColor number entry = .ok () :=
          if_neg (by rw [hline]; exact Bool.false_ne_true)
        rw [Log.refusal?_of_ok htaken, ih, Option.map_map]
        simp only [Bool.false_eq_true, if_false, Option.map_map]
        rfl

end Logs

/-! ## What streams make of a course -/

section Ends

variable {refusals : Refusals} {noColor : Option Text} {verbose : Bool} {fs : FileSystem}
  {course : Course} {taken : Nat}

theorem Course.ended_of_some
    (h : (course.script.printed noColor verbose).out.findIdx? refusals.out = some taken) :
    course.ended refusals noColor verbose fs =
      let printed := course.script.printed noColor verbose
      let logged := (logIf verbose noColor course.script.entries).length
      failOn refusals noColor (printed.out.take taken) .noTitle
        (if taken < logged then fs else course.files)
        (if taken < logged ∧ taken < 2 then [] else course.calls) := by
  simp only [ended, h]

theorem Course.ended_of_none
    (h : (course.script.printed noColor verbose).out.findIdx? refusals.out = none) :
    course.ended refusals noColor verbose fs =
      let printed := course.script.printed noColor verbose
      if printed.err.any refusals.err then
        ⟨.error .noTitle, ⟨printed.out, []⟩, course.files, course.calls⟩
      else ⟨course.exit, printed, course.files, course.calls⟩ := by
  simp only [ended, h]

/-- A refused log line: nothing has been changed. -/
theorem Course.ended_of_logLine
    (h : (logIf verbose noColor course.script.entries).findIdx? refusals.out = some taken) :
    course.ended refusals noColor verbose fs =
      failOn refusals noColor (logIf verbose noColor (course.script.entries.take taken)) .noTitle fs
        (if taken < 2 then [] else course.calls) := by
  have hlt := (List.findIdx?_eq_some_iff_findIdx_eq.mp h).1
  rw [Course.ended_of_some (by rw [Script.printed, List.findIdx?_append, h, Option.some_or])]
  simp only [hlt, true_and, if_true]
  rw [logIf_take, Script.printed, List.take_append_of_le_length (Nat.le_of_lt hlt)]

/-- A refused line behind the log: the work has been done. -/
theorem Course.ended_of_line
    (hlog : (logIf verbose noColor course.script.entries).findIdx? refusals.out = none)
    (h : (course.script.out.map (Line.shown noColor)).findIdx? refusals.out = some taken) :
    course.ended refusals noColor verbose fs =
      failOn refusals noColor (logIf verbose noColor course.script.entries ++
        (course.script.out.take taken).map (Line.shown noColor)) .noTitle course.files
        course.calls := by
  have hfirst : (course.script.printed noColor verbose).out.findIdx? refusals.out =
      some (taken + (logIf verbose noColor course.script.entries).length) := by
    rw [Script.printed, List.findIdx?_append, hlog, h]
    rfl
  rw [Course.ended_of_some hfirst]
  simp only [Nat.not_lt.mpr (Nat.le_add_left _ taken), false_and, if_false]
  rw [Script.printed, Nat.add_comm, List.take_length_add_append, List.map_take]

/-- No refused text on the output stream. -/
theorem Course.ended_of_out
    (hlog : (logIf verbose noColor course.script.entries).findIdx? refusals.out = none)
    (h : (course.script.out.map (Line.shown noColor)).findIdx? refusals.out = none) :
    course.ended refusals noColor verbose fs =
      let printed := course.script.printed noColor verbose
      if printed.err.any refusals.err then
        ⟨.error .noTitle, ⟨printed.out, []⟩, course.files, course.calls⟩
      else ⟨course.exit, printed, course.files, course.calls⟩ := by
  refine Course.ended_of_none ?_
  rw [Script.printed, List.findIdx?_append, hlog, h]
  rfl

/-- If no text is refused, the work takes its whole course. -/
theorem Course.ended_of_accepted
    (hout : ∀ text ∈ (course.script.printed noColor verbose).out, refusals.out text = false)
    (herr : ∀ text ∈ (course.script.printed noColor verbose).err, refusals.err text = false) :
    course.ended refusals noColor verbose fs =
      ⟨course.exit, course.script.printed noColor verbose, course.files, course.calls⟩ := by
  have hany : (course.script.printed noColor verbose).err.any refusals.err = false :=
    List.any_eq_false.mpr fun text htext => by rw [herr text htext]; exact Bool.false_ne_true
  rw [Course.ended_of_none (List.findIdx?_eq_none_iff.mpr hout)]
  simp only [hany, Bool.false_eq_true, if_false]

/-- The work that only says why it does nothing. -/
theorem Course.ended_halted (exit : Except DumpError Nat) (lines : List Line) :
    (halted exit lines fs).ended refusals noColor verbose fs =
      if (lines.map (Line.shown noColor)).any refusals.err then
        ⟨.error .noTitle, ⟨[], []⟩, fs, []⟩
      else ⟨exit, ⟨[], lines.map (Line.shown noColor)⟩, fs, []⟩ := by
  have hlog : logIf verbose noColor [] = [] := by
    unfold logIf
    split <;> rfl
  rw [Course.ended_of_out (by rw [halted, hlog]; rfl) rfl]
  simp only [halted, Script.printed, hlog, List.map_nil, List.nil_append]

/-- Work that fails behind some lines. -/
theorem Course.ended_failed {entries : List Text} {out : List Line} {error : DumpError}
    {files : FileSystem} {calls : List EngineCall}
    (hlog : (logIf verbose noColor entries).findIdx? refusals.out = none)
    (hout : (out.map (Line.shown noColor)).findIdx? refusals.out = none) :
    (following ⟨entries, out, [.failed error]⟩ files calls).ended refusals noColor verbose fs =
      failOn refusals noColor (logIf verbose noColor entries ++ out.map (Line.shown noColor)) error
        files calls := by
  rw [Course.ended_of_out hlog hout, failOn]
  simp only [following, Script.printed, List.map_cons, List.map_nil, List.any_cons, List.any_nil,
    Bool.or_false]
  rfl

/-- Work that fails behind one line, if that is not refused. -/
theorem Course.ended_failedBehind {entries : List Text} {line : Line} {error : DumpError}
    {files : FileSystem} {calls : List EngineCall}
    (hlog : (logIf verbose noColor entries).findIdx? refusals.out = none) :
    (following ⟨entries, [line], [.failed error]⟩ files calls).ended refusals noColor verbose fs =
      let shown := logIf verbose noColor entries
      if refusals.out (line.shown noColor) then failOn refusals noColor shown .noTitle files calls
      else failOn refusals noColor (shown ++ [line.shown noColor]) error files calls := by
  have hline : ([line].map (Line.shown noColor)).findIdx? refusals.out =
      if refusals.out (line.shown noColor) then some 0 else none := by
    simp only [List.map_cons, List.map_nil, List.findIdx?_cons, List.findIdx?_nil, Option.map_none]
  dsimp only
  split_ifs at hline ⊢ with hrefused
  · rw [Course.ended_of_line hlog hline]
    simp only [following, List.take_zero, List.map_nil, List.append_nil]
  · exact Course.ended_failed hlog hline

/-- Work that succeeds with two lines, if neither of them is refused. -/
theorem Course.ended_done {entries : List Text} {first second : Line} {files : FileSystem}
    {calls : List EngineCall}
    (hlog : (logIf verbose noColor entries).findIdx? refusals.out = none) :
    (following ⟨entries, [first, second], []⟩ files calls).ended refusals noColor verbose fs =
      let shown := logIf verbose noColor entries
      if refusals.out (first.shown noColor) then
        failOn refusals noColor shown .noTitle files calls
      else if refusals.out (second.shown noColor) then
        failOn refusals noColor (shown ++ [first.shown noColor]) .noTitle files calls
      else
        ⟨.ok 0, ⟨shown ++ [first.shown noColor] ++ [second.shown noColor], []⟩, files, calls⟩ := by
  have hlines : ([first, second].map (Line.shown noColor)).findIdx? refusals.out =
      if refusals.out (first.shown noColor) then some 0
      else if refusals.out (second.shown noColor) then some 1 else none := by
    simp only [List.map_cons, List.map_nil, List.findIdx?_cons, List.findIdx?_nil, Option.map_none]
    split_ifs <;> rfl
  dsimp only
  split_ifs at hlines ⊢ with hfirst hsecond
  · rw [Course.ended_of_line hlog hlines]
    simp only [following, List.take_zero, List.map_nil, List.append_nil]
  · rw [Course.ended_of_line hlog hlines]
    rfl
  · rw [Course.ended_of_out hlog hlines]
    simp only [following, Script.printed, List.map_nil, List.any_nil, Bool.false_eq_true, if_false,
      List.append_assoc]
    rfl

end Ends

/-! ## The work takes its course -/

variable [Codecs]

/-- A run takes its course, up to the first text that is refused. -/
theorem runOn_eq (refusals : Refusals) (engine : Engine) (clock : DateTime) (noColor : Option Text)
    (fs : FileSystem) (job : Job) (directory : Text) (print verbose : Bool) :
    runOn refusals engine clock noColor fs job directory print verbose =
      (runCourse engine clock fs job directory print).ended refusals noColor verbose fs := by
  unfold runOn runCourse
  cases print with
  | false =>
    rw [if_neg Bool.false_ne_true, if_neg Bool.false_ne_true, dumpLogged_eq]
    generalize dumpFile engine fs job directory (momentOf clock) = dumped
    obtain ⟨after, result, entries, calls⟩ := dumped
    dsimp only
    rw [refusal?_logOn]
    rcases hlog : (logIf verbose noColor entries).findIdx? refusals.out with _ | taken
    · simp only [Option.map_none]
      cases result with
      | error error =>
        rw [savingScript, Course.ended_failed hlog rfl, List.map_nil, List.append_nil]
      | ok path =>
        rw [savingScript, Course.ended_done hlog]
        rfl
    · rw [Course.ended_of_logLine (by rw [Course.following, savingScript_entries]; exact hlog),
        Course.following, savingScript_entries]
      rfl
  | true =>
    rw [if_pos rfl, if_pos rfl, buildLogged_eq]
    generalize buildReport engine fs job (momentOf clock) = built
    obtain ⟨result, entries, calls⟩ := built
    dsimp only
    rw [refusal?_logOn]
    rcases hlog : (logIf verbose noColor entries).findIdx? refusals.out with _ | taken
    · simp only [Option.map_none]
      cases result with
      | error error =>
        rw [printingScript, Course.ended_failed hlog rfl, List.map_nil, List.append_nil]
      | ok report =>
        cases hrender : report.render with
        | error error =>
          simp only [printingScript, hrender]
          rw [Course.ended_failedBehind hlog]
          rfl
        | ok text =>
          simp only [printingScript, hrender]
          rw [Course.ended_done hlog]
          rfl
    · rw [Course.ended_of_logLine (by rw [Course.following, printingScript_entries]; exact hlog),
        Course.following, printingScript_entries]
      rfl

/-- If its flags do not exclude each other, the work takes its course. -/
theorem body_eq_course {settings : Settings} (refusals : Refusals) (engine : Engine)
    (clock : DateTime) (noColor : Option Text) (fs : FileSystem)
    (hflags : checkFlags settings.quiet settings.verbose settings.print = .ok ()) :
    body refusals engine clock noColor fs settings =
      (course engine clock fs settings).ended refusals noColor settings.verbose fs := by
  have hrefuse (line : Line) : refuse refusals fs (line.shown noColor) =
      (Course.halted (.ok 1) [line] fs).ended refusals noColor settings.verbose fs := by
    rw [Course.ended_halted]
    simp only [List.map_cons, List.map_nil, List.any_cons, List.any_nil, Bool.or_false]
    rfl
  have hescape (error : DumpError) : ⟨.error error, ⟨[], []⟩, fs, []⟩ =
      (Course.halted (.error error) [] fs).ended refusals noColor settings.verbose fs := by
    rw [Course.ended_halted]
    rfl
  unfold body course
  rw [hflags]
  dsimp only
  cases settings.file with
  | none => exact hrefuse (.plain usageLine)
  | some file =>
    dsimp only
    cases fs.isFile (Path.ofText file) with
    | error fault => exact hescape _
    | ok answer =>
      cases answer with
      | false => exact hrefuse ⟨some .red, notFoundLine file⟩
      | true =>
        dsimp only
        by_cases hcount : countLimit ≤ settings.indent
        · rw [if_pos hcount, if_pos hcount]
          exact hescape _
        · rw [if_neg hcount, if_neg hcount]
          exact runOn_eq _ _ _ _ _ _ _ _ _

end SyntaxReport.Command
