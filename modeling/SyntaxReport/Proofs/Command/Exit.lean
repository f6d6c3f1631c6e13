import SyntaxReport.Proofs.Command.Escapes
import SyntaxReport.Proofs.Console.Strip

/-!
# How the command ends

The command ends with an exit code, unless a failure escapes the work, or the output directory is no
path and cannot be looked up (`Escapes`).

Results:
* `interpret_eq_failure_iff`: when checking an argument list fails.
* `execute_exit_eq_error_iff`: the failures that escape the command are those of `Escapes`.
* `execute_exit`: the exit codes, and what happens to a file that is not there.
-/

namespace SyntaxReport.Command

open Console (Tint Unmarked Untitled)

/-- The argument list is accepted, its flags do not exclude each other, and it names a file. -/
structure Accepts (fs : FileSystem) (arguments : List Text) (settings : Settings) (file : Text) :
    Prop where
  interpreted : interpret fs arguments = .ok (.work settings)
  works : settings.WorksOn file

/-- The failures that escape the command. -/
inductive Escapes [Codecs] (around : Surroundings) (fs : FileSystem) (arguments : List Text) :
    DumpError → Prop
  /-- The output directory is no path, and the values checked before it are accepted. -/
  | directory {items : List Item} {before after : List Setting} :
      readArguments arguments = .ok items → notice? items = none →
      checkOrder items = before ++ .outputDirectory :: after →
      (∀ setting ∈ before, fault? fs items setting = none) →
      Char.ofNat 0 ∈ outputDirectoryOf items →
      Escapes around fs arguments (.refused ⟨.embeddedNull, Path.ofText (outputDirectoryOf items)⟩)
  /-- It comes to the work on a file, and the failure escapes that. -/
  | work {settings : Settings} {file : Text} {error : DumpError} :
      Accepts fs arguments settings file → WorkEscapes around fs settings file error →
      Escapes around fs arguments error

variable {engine : Engine} {around : Surroundings} {fs : FileSystem} {arguments : List Text}
  {settings : Settings} {error : DumpError} {file : Text}

/-! ## Reading the arguments -/

/-- Of the checks of values, only that of the output directory can fail. -/
theorem fault?_eq_failure_iff {items : List Item} {setting : Setting} :
    fault? fs items setting = some (.failure error) ↔
      setting = .outputDirectory ∧ Char.ofNat 0 ∈ outputDirectoryOf items ∧
        error = .refused ⟨.embeddedNull, Path.ofText (outputDirectoryOf items)⟩ := by
  cases setting with
  | outputDirectory =>
    rw [fault?, directoryFault?, List.contains_eq_mem]
    by_cases hnull : Char.ofNat 0 ∈ outputDirectoryOf items
    · rw [if_pos (decide_eq_true hnull)]
      constructor
      · rintro ⟨⟩
        exact ⟨rfl, hnull, rfl⟩
      · rintro ⟨-, -, rfl⟩
        rfl
    · rw [if_neg (by rwa [decide_eq_true_eq])]
      simp [hnull]
  | language | encoding | indent =>
    simp only [fault?, Option.map_eq_some_iff, reduceCtorEq, and_false, exists_false, false_and]

theorem settle_eq_failure_iff {items : List Item} :
    settle fs items = .error (.failure error) ↔
      (checkOrder items).findSome? (fault? fs items) = some (.failure error) := by
  unfold settle
  cases (checkOrder items).findSome? (fault? fs items) with
  | some rejection => simp
  | none => cases (operands items).tail <;> simp

theorem interpret_eq_failure_iff :
    interpret fs arguments = .error (.failure error) ↔
      ∃ items, readArguments arguments = .ok items ∧ notice? items = none ∧
        (checkOrder items).findSome? (fault? fs items) = some (.failure error) := by
  unfold interpret
  cases readArguments arguments with
  | error fault => simp
  | ok items =>
    simp only [← settle_eq_failure_iff, Except.ok.injEq, exists_eq_left']
    cases notice? items with
    | some notice => simp
    | none => cases settle fs items <;> simp [Except.map]

/-- If checking the arguments fails, the output directory is no path. -/
theorem escapes_of_interpret [Codecs] (h : interpret fs arguments = .error (.failure error)) :
    Escapes around fs arguments error := by
  obtain ⟨items, hread, hnotice, hchecked⟩ := interpret_eq_failure_iff.mp h
  obtain ⟨before, setting, after, horder, hfault, hbefore⟩ := List.findSome?_eq_some_iff.mp hchecked
  obtain ⟨rfl, hnull, rfl⟩ := fault?_eq_failure_iff.mp hfault
  exact .directory hread hnotice horder hbefore hnull

section Work

variable [Codecs]

/-! ## The command -/

/-- A failure escapes the command in the ways of `Escapes`, and in no other. -/
theorem execute_exit_eq_error_iff :
    (execute engine around fs arguments).exit = .error error ↔
      Escapes around fs arguments error := by
  constructor
  · intro h
    unfold execute at h
    cases hinterpret : interpret fs arguments with
    | error rejection =>
      cases rejection with
      | usage fault =>
        rw [hinterpret] at h
        cases h
      | failure failure =>
        rw [hinterpret] at h
        cases h
        exact escapes_of_interpret hinterpret
    | ok invocation =>
      cases invocation with
      | notice notice =>
        rw [hinterpret] at h
        cases h
      | work settings =>
        rw [hinterpret] at h
        obtain ⟨file, hworks, hescapes⟩ := ((body_exit engine around fs settings).2 error).mp h
        exact .work ⟨hinterpret, hworks⟩ hescapes
  · intro h
    cases h with
    | @directory items before after hread hnotice horder hbefore hnull =>
      have hfault : fault? fs items .outputDirectory = some (.failure _) :=
        fault?_eq_failure_iff.mpr ⟨rfl, hnull, rfl⟩
      have hchecked := List.findSome?_eq_some_iff.mpr ⟨_, _, _, horder, hfault, hbefore⟩
      have hinterpret := interpret_eq_failure_iff.mpr ⟨items, hread, hnotice, hchecked⟩
      simp only [execute, hinterpret]
    | work haccepts hescapes =>
      simp only [execute, haccepts.interpreted]
      exact ((body_exit engine around fs _).2 error).mpr ⟨_, haccepts.works, hescapes⟩

/-- An exit code of the command is 0, 1 or 2. -/
theorem execute_exit_le {code : Nat} (h : (execute engine around fs arguments).exit = .ok code) :
    code ≤ 2 := by
  unfold execute at h
  cases hinterpret : interpret fs arguments with
  | error rejection =>
    rw [hinterpret] at h
    cases rejection with
    | usage fault =>
      cases h
      decide
    | failure failure => cases h
  | ok invocation =>
    rw [hinterpret] at h
    cases invocation with
    | notice notice =>
      cases h
      decide
    | work settings =>
      have hcode := (body_exit engine around fs settings).1 code h
      omega

/-- Without a file, the line about that goes to the error stream if it is not refused, and nothing
else happens. -/
theorem execute_of_not_file (h : Accepts fs arguments settings file)
    (hnot : NotFile fs (Path.ofText file)) (hrefused : ¬settings.NotFoundRefused around file) :
    execute engine around fs arguments =
      ⟨.ok 1, [], settings.filter around
        [Tint.red.paint (settings.noColor around) (notFoundLine file)], settings.closing around, fs,
        []⟩ := by
  have hempty : settings.filter around [] = [] := by
    simp only [Settings.filter, List.map_nil, printedText, List.flatMap_nil, ite_self]
  have hline : ¬(settings.refusals around).err
    (Tint.red.paint (settings.noColor around) (notFoundLine file)) = true := hrefused
  simp only [execute, h.interpreted, body_of_not_file h.works hnot, refuse, if_neg hline, hempty,
    ite_self]

omit [Codecs] in
/-- What a stream gets of a painted text in which no control sequence begins: the text, painted
only on a terminal. -/
theorem filter_paint (tint : Tint) {t : Text} (hhead : t.head? ≠ some '\x02')
    (h : around.terminal ∨ settings.colorOff ∨ Unmarked t) :
    settings.filter around [tint.paint (settings.noColor around) t] =
      (if around.terminal then tint.paint (settings.noColor around) t else t) ++ ['\n'] := by
  have hsingle (s : Text) : printedText [s] = s ++ ['\n'] := by
    rw [printedText, List.flatMap_singleton]
  rw [Settings.filter]
  by_cases hterminal : around.terminal
  · simp only [hterminal, Bool.true_or, if_true, hsingle]
  · by_cases hoff : settings.colorOff
    · simp [hterminal, hoff, hsingle, Settings.noColor, Tint.paint]
    · have hunmarked : Unmarked t := (h.resolve_left hterminal).resolve_left hoff
      have hplain : Untitled t := Console.escapesAllow_of_not_mem hunmarked.escape_not_mem
      simp only [hterminal, hoff, Bool.or_self, Bool.false_eq_true, if_false, List.map_cons,
        List.map_nil, Console.converted_eq (hplain.paint _ tint),
        Console.stripSequences_paint _ tint hunmarked.sealed hhead, hsingle]

omit [Codecs] in
theorem unmarked_notFoundLine (h : Unmarked file) : Unmarked (notFoundLine file) :=
  Unmarked.append ⟨by decide, by decide⟩ h

omit [Codecs] in
theorem head?_notFoundLine (file : Text) : (notFoundLine file).head? ≠ some '\x02' := by
  have hfirst : "Error: File not found: ".toList.head? = some 'E' := by decide
  unfold notFoundLine
  rw [List.head?_append, hfirst, Option.some_or]
  decide

omit [Codecs] in
/-- A line that a stream shows as it is, or that cannot hold a command, is not refused. -/
theorem not_notFoundRefused (h : around.terminal ∨ settings.colorOff ∨ Unmarked file) :
    ¬settings.NotFoundRefused around file := by
  rw [Settings.NotFoundRefused, Bool.not_eq_true]
  rcases h with hterminal | hoff | hunmarked
  · simp only [Settings.refusals, Settings.showsErr, hterminal, Bool.true_or, Bool.not_true,
      Bool.false_and]
  · simp only [Settings.refusals, Settings.showsErr, hoff, Bool.or_true, Bool.not_true,
      Bool.false_and]
  · have hline : Untitled (notFoundLine file) :=
      Console.escapesAllow_of_not_mem (unmarked_notFoundLine hunmarked).escape_not_mem
    exact (refusals_of_untitled (hline.paint _ .red) settings around).2

/-- The command, whatever its arguments and the file system, ends with exit code 0, 1 or 2 unless a
failure escapes it in one of the ways of `Escapes`. If the arguments are accepted and the file they
name has been looked up and is none, then the command says so on the error stream, does nothing
else, and ends with exit code 1, unless the line is refused. The line is red on a terminal and plain
elsewhere. Only a name with a control sequence or a command in it may lose something on the way to a
stream that is no terminal, and only one with a command may be refused. -/
theorem execute_exit (engine : Engine) (around : Surroundings) (fs : FileSystem)
    (arguments : List Text) :
    let ended := execute engine around fs arguments
    (∀ code, ended.exit = .ok code → code ≤ 2) ∧
    (∀ error, ended.exit = .error error ↔ Escapes around fs arguments error) ∧
    ∀ settings file, Accepts fs arguments settings file → NotFile fs (Path.ofText file) →
      let line := Tint.red.paint (settings.noColor around) (notFoundLine file)
      (¬settings.NotFoundRefused around file →
        ended.exit = .ok 1 ∧ ended.files = fs ∧ ended.calls = [] ∧ ended.out = [] ∧
        ended.err = settings.filter around [line]) ∧
      (around.terminal ∨ settings.colorOff ∨ Unmarked file →
        ¬settings.NotFoundRefused around file ∧
        ended.err = (if around.terminal then line else notFoundLine file) ++ ['\n']) := by
  refine ⟨fun code => execute_exit_le, fun error => execute_exit_eq_error_iff,
    fun settings file haccepts hnot => ⟨fun hrefused => ?_, fun h => ?_⟩⟩
  · rw [execute_of_not_file haccepts hnot hrefused]
    exact ⟨rfl, rfl, rfl, rfl, rfl⟩
  · have hrefused := not_notFoundRefused h
    refine ⟨hrefused, ?_⟩
    rw [execute_of_not_file haccepts hnot hrefused]
    have hline := h.imp_right (·.imp_right unmarked_notFoundLine)
    exact filter_paint .red (head?_notFoundLine file) hline

end Work

/-- The settings of the command for a file, with all options left out. -/
def settingsFor (file : Text) : Settings := settingsOf [.operand file]

/-- A file alone is accepted if the output directory that is the default can be used. -/
theorem accepts_file (hplain : isSwitch file = false)
    (hdirectory : unusable? fs defaultOutputDirectory = none) :
    Accepts fs [file] (settingsFor file) file := by
  have hne : file ≠ endOfOptions := by
    rintro rfl
    exact absurd hplain (by decide)
  have hread : readArguments [file] = .ok [.operand file] := by
    simp [readArguments, hne, hplain, Except.map]
  have hnull : Char.ofNat 0 ∉ defaultOutputDirectory := by decide
  have hchecked (setting : Setting) : fault? fs [.operand file] setting = none := by
    cases setting with
    | outputDirectory =>
      have hdefault : outputDirectoryOf [.operand file] = defaultOutputDirectory := rfl
      rw [fault?, hdefault, directoryFault?, List.contains_eq_mem, hdirectory,
        if_neg (by simpa using hnull), Option.map_none]
    | language | encoding | indent => rfl
  have hsettled : settle fs [.operand file] = .ok (settingsFor file) := by
    rw [settle, List.findSome?_eq_none_iff.mpr fun setting _ => hchecked setting]
    rfl
  refine ⟨?_, rfl, rfl⟩
  rw [interpret, hread]
  simp [notice?, hsettled, Except.map]

/-- The command started off a terminal, in the first second of a year. -/
def plainSurroundings : Surroundings :=
  { clock := ⟨⟨2000, 1, 1⟩, 0, 0, 0, 0⟩
    noColor := none
    terminal := false }

/-- A directory `src` in the root directory, where the program works. -/
def filesWithDirectory : FileSystem :=
  { entries := [(["src".toList], .directory)]
    workingDirectory := [] }

open SmallSystem in
/-- A directory in place of the file ends the command with exit code 1. -/
theorem execute_exit_directory :
    let ended := execute (fun _ _ => []) plainSurroundings filesWithDirectory ["src".toList]
    ended.exit = .ok 1 ∧ ended.err = notFoundLine "src".toList ++ ['\n'] := by
  have haccepts : Accepts filesWithDirectory ["src".toList] (settingsFor "src".toList)
      "src".toList := accepts_file rfl rfl
  have hanswer : filesWithDirectory.isFile (Path.ofText "src".toList) = .ok false := rfl
  obtain ⟨-, -, hmissing⟩ := execute_exit (fun _ _ => []) plainSurroundings filesWithDirectory
    ["src".toList]
  obtain ⟨hsaid, hplain⟩ := hmissing _ _ haccepts (isFile_eq_ok_false_iff.mp hanswer)
  have hunmarked : Unmarked "src".toList := ⟨by decide, by decide⟩
  obtain ⟨hrefused, herr⟩ := hplain (.inr (.inr hunmarked))
  exact ⟨(hsaid hrefused).1, herr⟩

/-- A name that is a command for a title. -/
def titleName : Text := [Console.escape, ']', '0', ';', 'x', Console.bell]

open SmallSystem in
/-- If no file has that name, the line about that is refused. -/
example :
    (execute (fun _ _ => []) plainSurroundings (FileSystem.empty []) [titleName]).exit =
      .error .noTitle :=
  rfl

/-- A name of 256 bytes. -/
def longName : Text := List.replicate 256 'f'

open SmallSystem in
/-- A name that is too long ends the command without an exit code. -/
theorem long_name_escapes :
    (execute (fun _ _ => []) plainSurroundings (FileSystem.empty []) [longName]).exit =
      .error (.refused ⟨.nameTooLong, Path.ofText longName⟩) := by
  have hbytes : (Encoding.Utf8.encode longName).length = 256 := by
    rw [Encoding.Utf8.encode, longName, List.length_flatMap, List.map_replicate,
      List.sum_replicate_nat]
    rfl
  have hlong : isTooLong longName := by
    rw [isTooLong, hbytes]
    decide
  have habsent (c : Char) (h : c ≠ 'f') : c ∉ longName := fun hmem =>
    h (List.eq_of_mem_replicate hmem)
  have htoo : (FileSystem.empty []).TooLong (Path.ofText longName) :=
    FileSystem.tooLong_of_isTooLong rfl (habsent _ (by decide)) (habsent _ (by decide)) hlong
  exact execute_exit_eq_error_iff.mpr (.work (accepts_file rfl rfl) (.tooLong htoo))

end SyntaxReport.Command
