import Mathlib.Data.List.Forall2
import SyntaxReport.Console.State
import SyntaxReport.Proofs.Command.Course
import SyntaxReport.Proofs.Command.ExitCode
import SyntaxReport.Proofs.Console.Colours
import SyntaxReport.Proofs.Layout.Lossless

/-!
# Flags for the looks

`quiet`, `verbose` and `colorOff` change how the outcome of the command looks, and nothing else. Two
invocations that differ only in them end with the same exit code, file system and engine calls; and
without the colours they say the same, apart from the log, and from the output stream that `quiet`
leaves empty.

Results:
* `JobEntry.tame`, `JobLine.tame`: no control sequence begins in what a job says.
* `shows_filter_lines`, `shows_filter_log`: without colours, a stream shows the texts of its lines.
* `execute_same_but_looks`: the two invocations, compared.
-/

namespace SyntaxReport.Command

open Calendar (DateTime)
open Console

variable {engine : Engine} {around : Surroundings} {fs : FileSystem} {settings : Settings}
  {job : Job} {directory : Text}

/-! ## What a job says -/

/-- No escape character is in what a job is given. -/
structure PlainJob (job : Job) (directory : Text) : Prop where
  file : escape ∉ job.file
  directory : escape ∉ directory
  language : escape ∉ job.languageName
  encoding : escape ∉ job.encoding
  indent : escape ∉ job.indent

theorem not_mem_append {s t : Text} {c : Char} (hs : c ∉ s) (ht : c ∉ t) : c ∉ s ++ t :=
  fun h => (List.mem_append.mp h).elim hs ht

theorem getLast?_append_ne {s t : Text} {c : Char} (hs : s.getLast? ≠ some c)
    (ht : t.getLast? ≠ some c) : (s ++ t).getLast? ≠ some c := by
  rw [List.getLast?_append]
  cases h : t.getLast? with
  | none => exact hs
  | some last => rwa [h] at ht

/-- No control sequence begins in the words of a failure, if none begins in the name that they may
give. -/
theorem inert_message {error : DumpError} {encoding : Text}
    (hname : ∀ fault name, error = .noEncoding fault name → name = encoding)
    (hencoding : escape ∉ encoding) : Inert error.message := by
  rcases hfailure : error.codecFailure? with _ | failure
  · refine escapesAllow_of_not_mem (DumpError.not_mem_message hname (by decide) hencoding ?_)
    intro failure hsome
    rw [hfailure] at hsome
    cases hsome
  · rw [DumpError.message_eq hfailure]
    exact failure.inert

/-- The words of a failure end with the character 01 only if the name does that they may give. -/
theorem getLast?_message_ne {error : DumpError} {encoding : Text}
    (hname : ∀ fault name, error = .noEncoding fault name → name = encoding)
    (hencoding : encoding.getLast? ≠ some '\x01') : error.message.getLast? ≠ some '\x01' := by
  by_cases hunknown : ∃ fault name, error = .noEncoding fault name
  · obtain ⟨fault, name, rfl⟩ := hunknown
    obtain rfl := hname fault name rfl
    cases fault with
    | unknown => exact getLast?_append_ne (by decide) hencoding
    | notText =>
      have hwords : (Text.apostrophe ::
          " is not a text encoding; use codecs.open() to handle arbitrary codecs".toList).getLast? =
        some 's' := by decide
      unfold DumpError.message NameFault.message
      rw [List.getLast?_append, hwords, Option.some_or]
      decide
  · rcases hfailure : error.codecFailure? with _ | failure
    · have hvisible := DumpError.visible_message
        (fun fault name hname => hunknown ⟨fault, name, hname⟩) hfailure
      exact (sealed_of_visible hvisible).getLast?_ne
    · rw [DumpError.message_eq hfailure]
      exact failure.getLast?_ne

theorem PlainJob.escape_not_mem_path (h : PlainJob job directory) :
    escape ∉ (outputPath job.file directory).toText :=
  Path.not_mem_toText_outputPath h.file h.directory (by decide) (by decide)

/-- No control sequence begins in a log entry. -/
theorem JobEntry.tame {entry : Text} (h : JobEntry job directory entry)
    (hjob : PlainJob job directory) : Tame entry := by
  cases h with
  | reading =>
    show Tame ("Reading ".toList ++ job.file ++ " as ".toList ++ job.encoding)
    rw [List.append_assoc, List.append_assoc]
    exact tame_append (by decide) (by decide)
      (escapesAllow_of_not_mem (not_mem_append hjob.file (not_mem_append (by decide) hjob.encoding)))
  | parsing =>
    show Tame ("Parsing with the ".toList ++ job.languageName ++ " grammar".toList)
    rw [List.append_assoc]
    exact tame_append (by decide) (by decide)
      (escapesAllow_of_not_mem (not_mem_append hjob.language (by decide)))
  | formatting tree =>
    have hnumber := (Text.visible_decimal tree.length).not_mem (c := escape) (by decide)
    show Tame ("Formatting ".toList ++ Text.decimal tree.length ++
      " characters of tree text".toList)
    rw [List.append_assoc]
    exact tame_append (by decide) (by decide)
      (escapesAllow_of_not_mem (not_mem_append hnumber (by decide)))
  | writing =>
    exact tame_append (by decide) (by decide) (escapesAllow_of_not_mem hjob.escape_not_mem_path)

/-- The sign in front of a confirmation is printable. -/
theorem visible_checkMark : checkMark.Visible := by decide +kernel

/-- No control sequence begins in a line, if none begins in what the engine has answered. -/
theorem JobLine.tame {calls : List EngineCall} {line : Line}
    (h : JobLine engine job directory calls line) (hjob : PlainJob job directory)
    (hanswers : ∀ call ∈ calls, escape ∉ engine call.language call.source) : Tame line.text := by
  cases h with
  | parsed =>
    show Tame (checkMark ++ " Parsed: ".toList ++ job.file)
    exact tame_append (Text.visible_append.mpr ⟨visible_checkMark, by decide⟩) (by decide)
      (escapesAllow_of_not_mem hjob.file)
  | saved =>
    show Tame (checkMark ++ " Saved to: ".toList ++ (outputPath job.file directory).toText)
    exact tame_append (Text.visible_append.mpr ⟨visible_checkMark, by decide⟩) (by decide)
      (escapesAllow_of_not_mem hjob.escape_not_mem_path)
  | failed hname =>
    exact tame_append (by decide) (by decide) (inert_message hname hjob.encoding)
  | @report call report text hcall hfile hlayout hrender =>
    have htree : escape ∉ report.treeText :=
      Tree.not_mem_of_layout_eq_ok (layoutTree_eq_ok hlayout) (hanswers call hcall) hjob.indent
        (by decide) (by decide)
    obtain ⟨reading, -, rfl⟩ := Report.render_eq_ok hrender
    have hstamp := reading.visible_stamp.not_mem (c := escape) (by decide)
    -- Between its fixed words the report holds the file, the time stamp and the tree.
    show Tame ("File: ".toList ++ report.sourcePath ++ "\nParsed at: ".toList ++ reading.stamp ++
      "\n\n".toList ++ report.treeText)
    simp only [List.append_assoc, hfile]
    exact tame_append (by decide) (by decide)
      (escapesAllow_of_not_mem (not_mem_append hjob.file (not_mem_append (by decide)
        (not_mem_append hstamp (not_mem_append (by decide) htree)))))

/-- A coloured line does not end with the character 01, unless the file or the encoding does. -/
theorem JobLine.getLast?_ne {calls : List EngineCall} {line : Line}
    (h : JobLine engine job directory calls line) (hfile : job.file.getLast? ≠ some '\x01')
    (hencoding : job.encoding.getLast? ≠ some '\x01') (htint : line.tint ≠ none) :
    line.text.getLast? ≠ some '\x01' := by
  cases h with
  | parsed => exact getLast?_append_ne (by decide) hfile
  | saved =>
    obtain ⟨rest, hrest⟩ := Path.exists_toText_outputPath job.file directory
    have hsuffix : reportSuffix.getLast? = some 't' := by decide
    show (checkMark ++ " Saved to: ".toList ++ (outputPath job.file directory).toText).getLast? ≠ _
    rw [hrest, ← List.append_assoc, List.getLast?_append, hsuffix, Option.some_or]
    decide
  | failed hname => exact getLast?_append_ne (by decide) (getLast?_message_ne hname hencoding)
  | report => exact absurd rfl htint

/-! ## What the work says -/

/-- No escape character is in the names that the command is given. -/
structure Settings.EscapeFree (settings : Settings) : Prop where
  file : ∀ file ∈ settings.file, escape ∉ file
  directory : escape ∉ settings.outputDirectory
  encoding : escape ∉ settings.encoding

/-- Neither the file nor the encoding ends with the character 01. -/
structure Settings.EndsUnmarked (settings : Settings) : Prop where
  file : ∀ file ∈ settings.file, file.getLast? ≠ some '\x01'
  encoding : settings.encoding.getLast? ≠ some '\x01'

theorem Settings.EscapeFree.plainJob (h : settings.EscapeFree) {file : Text}
    (hfile : file ∈ settings.file) : PlainJob (settings.job file) settings.outputDirectory where
  file := h.file file hfile
  directory := h.directory
  language := by
    unfold Job.languageName Settings.job
    cases settings.language with
    | none => exact (Language.visible_name _).not_mem (by decide)
    | some language => exact language.visible_name.not_mem (by decide)
  encoding := h.encoding
  indent := by
    intro hmem
    have hspace := List.eq_of_mem_replicate hmem
    exact absurd hspace (by decide)

/-- No control sequence begins in what the work says. -/
theorem course_tame [Codecs] {clock : DateTime} (h : settings.EscapeFree)
    (hanswers : ∀ call ∈ (course engine clock fs settings).calls,
      escape ∉ engine call.language call.source) :
    let script := (course engine clock fs settings).script
    (∀ entry ∈ script.entries, Tame entry) ∧ ∀ line ∈ script.out ++ script.err, Tame line.text := by
  obtain ⟨hentries, hlines⟩ := course_says engine clock fs settings
  refine ⟨fun entry hentry => ?_, fun line hline => ?_⟩
  · obtain ⟨file, hfile, hjob⟩ := hentries entry hentry
    exact hjob.tame (h.plainJob hfile)
  · obtain rfl | ⟨file, hfile, rfl | hjob⟩ := hlines line hline
    · exact tame_of_visible (by decide)
    · exact tame_append (by decide) (by decide) (escapesAllow_of_not_mem (h.file file hfile))
    · exact hjob.tame (h.plainJob hfile) hanswers

/-- No coloured line of the work ends with the character 01, if no name does. -/
theorem course_getLast?_ne [Codecs] (engine : Engine) (clock : DateTime) (fs : FileSystem)
    (h : settings.EndsUnmarked) :
    let script := (course engine clock fs settings).script
    ∀ line ∈ script.out ++ script.err, line.tint ≠ none → line.text.getLast? ≠ some '\x01' := by
  intro script line hline htint
  obtain ⟨-, hlines⟩ := course_says engine clock fs settings
  obtain rfl | ⟨file, hfile, rfl | hjob⟩ := hlines line hline
  · exact absurd rfl htint
  · exact getLast?_append_ne (by decide) (h.file file hfile)
  · exact hjob.getLast?_ne (h.file file hfile) h.encoding htint

/-! ## What the streams show -/

/-- Texts are shown one by one, each on a line of its own. -/
theorem shows_printedText {coloured plain : List Text} (h : List.Forall₂ Shows coloured plain) :
    Shows (printedText coloured) (printedText plain) := by
  induction h with
  | nil => exact shows_self (escapesAllow_of_visible (by decide))
  | cons hfirst _ ih =>
    exact (hfirst.append (shows_self (escapesAllow_of_not_mem (by decide)))).append ih

/-- A stream gets each text without commands as it is, or stripped. -/
theorem filter_eq (settings : Settings) (around : Surroundings) {texts : List Text}
    (h : ∀ text ∈ texts, Untitled text) :
    settings.filter around texts = printedText (texts.map fun text =>
      if around.terminal || settings.colorOff then text else stripSequences text) := by
  unfold Settings.filter
  split_ifs with hraw
  · rw [List.map_id']
  · rw [List.map_congr_left fun text htext => converted_eq (h text htext)]

theorem untitled_shown (noColor : Option Text) {line : Line} (h : Tame line.text) :
    Untitled (line.shown noColor) := by
  unfold Line.shown
  cases line.tint with
  | none => exact h.inert.untitled
  | some tint => exact h.inert.untitled.paint noColor tint

theorem untitled_lines (noColor : Option Text) {lines : List Line}
    (h : ∀ line ∈ lines, Tame line.text) :
    ∀ text ∈ lines.map (Line.shown noColor), Untitled text := by
  intro text htext
  obtain ⟨line, hline, rfl⟩ := List.mem_map.mp htext
  exact untitled_shown noColor (h line hline)

theorem untitled_log (noColor : Option Text) {entries : List Text}
    (h : ∀ entry ∈ entries, Tame entry) : ∀ text ∈ logLines noColor entries, Untitled text :=
  Untitled.logLinesFrom noColor (fun entry hentry => (h entry hentry).inert.untitled) 1

/-- Without colours, a line is its text. -/
theorem shows_shown (noColor : Option Text) {line : Line} (h : Tame line.text) :
    Shows (line.shown noColor) line.text := by
  unfold Line.shown
  cases line.tint with
  | none => exact shows_self h.inert
  | some tint => exact shows_paint noColor tint h.inert

/-- Stripping a line takes only its colours, unless it is painted and ends with the character 01. -/
theorem stripSequences_shown {noColor : Option Text} {line : Line} (h : Tame line.text)
    (hlast : noColor = none → line.tint ≠ none → line.text.getLast? ≠ some '\x01') :
    stripSequences (line.shown noColor) = line.text := by
  have hself := stripSequences_eq_self h.inert
  cases noColor with
  | some value => rw [Line.shown_some, hself]
  | none =>
    unfold Line.shown
    cases htint : line.tint with
    | none => exact hself
    | some tint =>
      have hsealed : Sealed line.text := ⟨h.inert, hlast rfl (by simp [htint])⟩
      exact stripSequences_paint none tint hsealed h.head?_ne

/-- Without colours, a stream shows the texts of its lines. A line is stripped only if the stream is
no terminal and colours are not turned off; and then, if NO_COLOR is not set, the line must not end
with the character 01. -/
theorem shows_filter_lines {lines : List Line} (htame : ∀ line ∈ lines, Tame line.text)
    (hmark : settings.colorOff = false → around.noColor = none → around.terminal = false →
      ∀ line ∈ lines, line.tint ≠ none → line.text.getLast? ≠ some '\x01') :
    Shows (settings.filter around (lines.map (Line.shown (settings.noColor around))))
      (printedText (lines.map Line.text)) := by
  rw [filter_eq settings around (untitled_lines _ htame), List.map_map]
  refine shows_printedText (List.forall₂_map_left_iff.mpr (List.forall₂_map_right_iff.mpr ?_))
  refine List.forall₂_same.mpr fun line hline => ?_
  dsimp only [Function.comp_apply]
  split_ifs with hraw
  · exact shows_shown _ (htame line hline)
  · rw [Bool.or_eq_true, not_or, Bool.not_eq_true, Bool.not_eq_true] at hraw
    obtain ⟨hterminal, hon⟩ := hraw
    have hnoColor : settings.noColor around = around.noColor := by
      rw [Settings.noColor, hon, if_neg Bool.false_ne_true]
    rw [hnoColor, stripSequences_shown (htame line hline) fun hvalue =>
      hmark hon hvalue hterminal line hline]
    exact shows_self (htame line hline).inert

/-- Without colours, a stream shows log lines as they are where NO_COLOR is set. -/
theorem shows_filter_log {entries : List Text} (htame : ∀ entry ∈ entries, Tame entry)
    (value : Text) :
    Shows (settings.filter around (logLines (settings.noColor around) entries))
      (printedText (logLines (some value) entries)) := by
  rw [filter_eq settings around (untitled_log _ htame)]
  apply shows_printedText
  unfold logLines
  generalize 1 = number
  induction entries generalizing number with
  | nil => exact .nil
  | cons entry more ih =>
    obtain ⟨hentry, hmore⟩ := List.forall_mem_cons.mp htame
    refine .cons ?_ (ih hmore (number + 1))
    split_ifs with hraw
    · exact shows_logLine _ value number hentry.inert
    · show Shows (stripSequences (logLine (settings.noColor around) number entry)) _
      rw [stripSequences_logLine _ value number hentry]
      exact shows_logLine (some value) value number hentry.inert

theorem calls_failOn (refusals : Refusals) (noColor : Option Text) (out : List Text)
    (error : DumpError) (files : FileSystem) (calls : List EngineCall) :
    (failOn refusals noColor out error files calls).calls = calls := by
  unfold failOn
  dsimp only
  split_ifs <;> rfl

/-- Without a log, whatever is refused is refused behind the calls of the engine. -/
theorem Course.calls_ended_unlogged (course : Course) (refusals : Refusals)
    (noColor : Option Text) {verbose : Bool} (hverbose : verbose = false) :
    (course.ended refusals noColor verbose fs).calls = course.calls := by
  subst hverbose
  rcases h : (course.script.printed noColor false).out.findIdx? refusals.out with _ | taken
  · rw [Course.ended_of_none h]
    dsimp only
    split_ifs <;> rfl
  · rw [Course.ended_of_some h, calls_failOn]
    exact if_neg fun hlogged => Nat.not_lt_zero taken hlogged.1

/-- Work takes its whole course if no control sequence begins in what it says. -/
theorem course_ended_of_tame {course : Course} (settings : Settings) (around : Surroundings)
    (verbose : Bool) (hentries : ∀ entry ∈ course.script.entries, Tame entry)
    (hlines : ∀ line ∈ course.script.out ++ course.script.err, Tame line.text) :
    course.ended (settings.refusals around) (settings.noColor around) verbose fs =
      ⟨course.exit, course.script.printed (settings.noColor around) verbose, course.files,
        course.calls⟩ := by
  obtain ⟨hout, herr⟩ := List.forall_mem_append.mp hlines
  refine Course.ended_of_accepted (fun text htext => ?_) fun text htext => ?_
  · refine (refusals_of_untitled ?_ settings around).1
    rcases List.mem_append.mp htext with hlog | hline
    · unfold logIf at hlog
      split_ifs at hlog
      · exact untitled_log _ hentries text hlog
      · cases hlog
    · exact untitled_lines _ hout text hline
  · exact (refusals_of_untitled (untitled_lines _ herr text htext) settings around).2

/-! ## Two invocations -/

/-- The settings with the flags for the looks left out. -/
def Settings.bare (settings : Settings) : Settings :=
  { settings with
    quiet := false
    verbose := false
    colorOff := false }

/-- The lines of a script look the same without colours, whether the flags for the looks are set or
left out. -/
theorem withoutColours_filter (settings : Settings) (around : Surroundings) {lines : List Line}
    (htame : ∀ line ∈ lines, Tame line.text)
    (hmark : settings.colorOff = true → around.noColor = none → around.terminal = false →
      ∀ line ∈ lines, line.tint ≠ none → line.text.getLast? ≠ some '\x01') :
    withoutColours
        (settings.filter around (lines.map (Line.shown (settings.noColor around)))) =
      withoutColours
        (settings.bare.filter around (lines.map (Line.shown (settings.bare.noColor around)))) := by
  cases hoff : settings.colorOff with
  | false =>
    -- The streams of both invocations are the same.
    have hnoColor : settings.noColor around = settings.bare.noColor around := by
      unfold Settings.noColor
      rw [hoff]
      rfl
    rw [hnoColor]
    unfold Settings.filter
    rw [hoff]
    rfl
  | true =>
    -- Both streams show the texts of the lines, the first of them without any colours.
    have hset : Shows (settings.filter around _) _ :=
      shows_filter_lines htame fun hon => absurd (hon.symm.trans hoff) Bool.false_ne_true
    have hbare : Shows (settings.bare.filter around _) _ :=
      shows_filter_lines htame fun _ => hmark hoff
    rw [hset.eq, hbare.eq]

/-- Two accepted invocations of the command are compared that differ only in the flags for the
looks, which the second has not. If those of the first do not exclude each other, and no escape
character is in the names or in an answer of the engine, then both end with the same exit code, the
same file system and the same calls of the engine, and `quiet` leaves the output stream empty.
Without colours, the error stream is the same as well, and so is the output stream, behind the
numbered log if that is wanted. The streams can differ only if colours are turned off where NO_COLOR
is not set and the streams are no terminals, and the file or the encoding ends with the character
01: from a coloured line that goes with the sequence behind it. -/
theorem execute_same_but_looks [Codecs] (engine : Engine) (around : Surroundings) (fs : FileSystem)
    {arguments bareArguments : List Text} {settings : Settings}
    (hset : interpret fs arguments = .ok (.work settings))
    (hbare : interpret fs bareArguments = .ok (.work settings.bare))
    (hflags : checkFlags settings.quiet settings.verbose settings.print = .ok ())
    (hnames : settings.EscapeFree)
    (hanswers : ∀ call ∈ (execute engine around fs bareArguments).calls,
      escape ∉ engine call.language call.source) :
    let ended := execute engine around fs arguments
    let bare := execute engine around fs bareArguments
    let entries := (course engine around.clock fs settings).script.entries
    ended.exit = bare.exit ∧ ended.files = bare.files ∧ ended.calls = bare.calls ∧
    (settings.quiet = true → ended.out = []) ∧
    ((settings.colorOff = true → around.noColor = none → around.terminal = false →
        settings.EndsUnmarked) →
      withoutColours ended.err = withoutColours bare.err ∧
      (settings.quiet = false → withoutColours ended.out =
        printedText (logIf settings.verbose (some noColorValue) entries) ++
          withoutColours bare.out)) := by
  -- The flags for the looks have no part in the course, so both invocations take the same.
  have hbareFlags : checkFlags settings.bare.quiet settings.bare.verbose settings.bare.print =
      .ok () := rfl
  have hsame : course engine around.clock fs settings.bare =
      course engine around.clock fs settings := rfl
  rw [execute_work hbare, body_eq_course _ _ _ _ _ hbareFlags, hsame] at hanswers ⊢
  rw [execute_work hset, body_eq_course _ _ _ _ _ hflags]
  dsimp only at hanswers
  have hunlogged : settings.bare.verbose = false := rfl
  rw [Course.calls_ended_unlogged _ _ _ hunlogged] at hanswers
  obtain ⟨hentries, hlines⟩ := course_tame hnames hanswers
  rw [course_ended_of_tame settings around settings.verbose hentries hlines,
    course_ended_of_tame settings.bare around settings.bare.verbose hentries hlines]
  have hlast (hmarks : settings.EndsUnmarked) :=
    course_getLast?_ne engine around.clock fs hmarks
  generalize course engine around.clock fs settings = course at hentries hlines hlast ⊢
  obtain ⟨exit, ⟨entries, out, err⟩, files, calls⟩ := course
  dsimp only at hentries hlines hlast ⊢
  obtain ⟨hout, herr⟩ := List.forall_mem_append.mp hlines
  refine ⟨rfl, rfl, rfl, fun hquiet => if_pos hquiet, fun hmark => ⟨?_, fun hquiet => ?_⟩⟩
  · exact withoutColours_filter settings around herr fun hoff hnoColor hterminal line hline =>
      hlast (hmark hoff hnoColor hterminal) line (List.mem_append_right _ hline)
  · have hlines : withoutColours _ = withoutColours _ :=
      withoutColours_filter settings around hout
        fun hoff hnoColor hterminal line hline =>
          hlast (hmark hoff hnoColor hterminal) line (List.mem_append_left _ hline)
    have hlog : Shows (settings.filter around
        (logIf settings.verbose (settings.noColor around) entries))
        (printedText (logIf settings.verbose (some noColorValue) entries)) := by
      unfold logIf
      split_ifs with hverbose
      · exact shows_filter_log hentries noColorValue
      · rw [filter_eq_nil_iff.mpr rfl]
        exact shows_self (escapesAllow_of_visible (by decide))
    rw [hquiet, if_neg Bool.false_ne_true]
    show withoutColours (settings.filter around (_ ++ _)) = _ ++ withoutColours
      (settings.bare.filter around ([] ++ _))
    rw [filter_append, hlog, hlines, List.nil_append]

/-- The argument that turns colours off. -/
def colorOffFlag : Text := "--color-off".toList

/-- The defaults have no escape character. -/
theorem escapeFree_settingsFor (file : Text) (h : escape ∉ file) :
    (settingsFor file).EscapeFree where
  file := by
    rintro other hother
    obtain rfl : file = other := Option.some.inj hother
    exact h
  directory := by
    show escape ∉ defaultOutputDirectory
    decide
  encoding := by
    show escape ∉ Encoding.defaultName
    decide

/-- The default encoding does not end with the character 01. -/
theorem endsUnmarked_settingsFor (file : Text) (h : file.getLast? ≠ some '\x01') :
    (settingsFor file).EndsUnmarked where
  file := by
    rintro other hother
    obtain rfl : file = other := Option.some.inj hother
    exact h
  encoding := by
    show Encoding.defaultName.getLast? ≠ some '\x01'
    decide

open SmallSystem in
/-- A file is dumped with a log and without colours, and then without flags. -/
theorem execute_same_but_looks_verbose :
    let engine : Engine := fun _ _ => "(a b)".toList
    let ended := execute engine plainSurroundings filesWithSource
      [colorOffFlag, "-v".toList, "x.js".toList]
    let bare := execute engine plainSurroundings filesWithSource ["x.js".toList]
    ended.exit = bare.exit ∧ ended.files = bare.files ∧ ended.err = [] ∧
      ∃ entries, withoutColours ended.out =
        printedText (logLines (some noColorValue) entries) ++ withoutColours bare.out := by
  intro engine ended bare
  let settings : Settings :=
    { settingsFor "x.js".toList with
      verbose := true
      colorOff := true }
  have hset : interpret filesWithSource [colorOffFlag, "-v".toList, "x.js".toList] =
      .ok (.work settings) := rfl
  obtain ⟨hfile, hdirectory, hencoding⟩ := escapeFree_settingsFor "x.js".toList (by decide)
  obtain ⟨hlast, hlast'⟩ := endsUnmarked_settingsFor "x.js".toList (by decide)
  obtain ⟨hexit, hfiles, -, -, hlooks⟩ := execute_same_but_looks engine plainSurroundings
    filesWithSource hset (accepts_file rfl rfl).interpreted rfl ⟨hfile, hdirectory, hencoding⟩
    fun _ _ => by decide
  obtain ⟨-, hout⟩ := hlooks fun _ _ _ => ⟨hlast, hlast'⟩
  have hverbose : settings.verbose = true := rfl
  rw [hverbose, logIf, if_pos rfl] at hout
  exact ⟨hexit, hfiles, rfl, _, hout rfl⟩

open SmallSystem in
/-- A file that is not there, and whose name ends with the character 01, is named as it is without
colours, and without that character where the colours are stripped. -/
theorem color_off_keeps_mark :
    let file : Text := ['a', '\x01']
    let fs := FileSystem.empty []
    let settings : Settings := { settingsFor file with colorOff := true }
    let ended := execute (fun _ _ => []) plainSurroundings fs [colorOffFlag, file]
    let bare := execute (fun _ _ => []) plainSurroundings fs [file]
    interpret fs [colorOffFlag, file] = .ok (.work settings) ∧
      interpret fs [file] = .ok (.work settings.bare) ∧
      checkFlags settings.quiet settings.verbose settings.print = .ok () ∧
      settings.EscapeFree ∧ withoutColours ended.err ≠ withoutColours bare.err := by
  intro file fs settings ended bare
  have herr : ended.err = notFoundLine file ++ ['\n'] := rfl
  have hplain : Unmarked (notFoundLine ['a']) := unmarked_notFoundLine ⟨by decide, by decide⟩
  have hbare : bare.err = notFoundLine ['a'] ++ ['\n'] := by
    show stripSequences (Tint.red.paint none (notFoundLine ['a'] ++ ['\x01'])) ++ ['\n'] ++ [] = _
    rw [stripSequences_paint_mark .red hplain.sealed (head?_notFoundLine ['a']), List.append_nil]
  obtain ⟨hfile, hdirectory, hencoding⟩ := escapeFree_settingsFor file (by decide)
  refine ⟨rfl, rfl, rfl, ⟨hfile, hdirectory, hencoding⟩, ?_⟩
  rw [herr, hbare]
  decide

end SyntaxReport.Command
