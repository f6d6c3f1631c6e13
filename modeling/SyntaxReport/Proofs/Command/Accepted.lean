import SyntaxReport.Proofs.Command.ExitCode
import SyntaxReport.Proofs.Command.Spelling
import SyntaxReport.Proofs.Text.Numeral

/-!
# Spelled out settings are accepted

An argument list that spells the settings out is accepted, and the command works with just these
settings. The one value that is not always read back is the indentation: a numeral has a limited
number of digits.

Results:
* `value?_map_item`: of several occurrences of an option, the last counts.
* `settingsOf_spelled`: the items come down to the settings.
* `fault?_spelled`, `fault?_indent_spelled`: no option has a fault but an indentation that is too
  long.
* `interpret_spelled`: the argument list is accepted with just these settings.
-/

namespace SyntaxReport.Command

/-! ## From items to settings -/

section Items

variable {fs : FileSystem} {settings : Settings} {file : Text} {before after : List Occurrence}

theorem mem_itemsAround_flag {flag : Flag} :
    .flag flag ∈ itemsAround file before after ↔ .flag flag ∈ before ++ after := by
  have hitem (occurrences : List Occurrence) :
      .flag flag ∈ occurrences.map Occurrence.item ↔ .flag flag ∈ occurrences := by
    rw [List.mem_map]
    constructor
    · rintro ⟨occurrence, hmem, heq⟩
      cases occurrence with
      | setting _ _ _ => cases heq
      | flag _ =>
        cases heq
        exact hmem
    · exact fun hmem => ⟨_, hmem, rfl⟩
  simp [itemsAround, hitem]

theorem notice?_itemsAround : notice? (itemsAround file before after) = none := by
  have hitem (occurrences : List Occurrence) :
      notice? (occurrences.map Occurrence.item) = none := by
    rw [notice?, List.findSome?_eq_none_iff]
    intro item hitem
    obtain ⟨occurrence, -, rfl⟩ := List.mem_map.mp hitem
    cases occurrence <;> rfl
  have hafter := hitem after
  have hbefore := hitem before
  rw [notice?] at hbefore hafter
  rw [itemsAround, notice?, List.findSome?_append, hbefore, List.findSome?_cons, hafter]
  rfl

theorem operands_itemsAround : operands (itemsAround file before after) = [file] := by
  have hitem (occurrences : List Occurrence) : operands (occurrences.map Occurrence.item) = [] := by
    rw [operands, List.filterMap_eq_nil_iff]
    intro item hitem
    obtain ⟨occurrence, -, rfl⟩ := List.mem_map.mp hitem
    cases occurrence <;> rfl
  have hbefore := hitem before
  have hafter := hitem after
  rw [operands] at hbefore hafter
  rw [itemsAround, operands, List.filterMap_append, hbefore, List.filterMap_cons, hafter]
  rfl

theorem value?_cons (setting : Setting) (item : Item) (more : List Item) :
    value? setting (item :: more) = (value? setting more).or (value? setting [item]) := by
  have hsplit : valuesOf setting (item :: more) =
      valuesOf setting [item] ++ valuesOf setting more :=
    List.filterMap_append (l := [item])
  rw [value?, value?, value?, hsplit, List.getLast?_append]

/-- The value of an option that counts is the one that it is given last. -/
theorem value?_map_item (setting : Setting) (occurrences : List Occurrence) :
    value? setting (occurrences.map Occurrence.item) = lastValue? setting occurrences := by
  induction occurrences with
  | nil => rfl
  | cons occurrence more ih =>
    have hone : value? setting [occurrence.item] = occurrence.value? setting := by
      cases occurrence with
      | setting other value attached =>
        by_cases hother : other = setting <;>
          simp [value?, valuesOf, Occurrence.item, Occurrence.value?, hother]
      | flag flag => rfl
    rw [List.map_cons, value?_cons, ih, hone, lastValue?]

/-- The file has no part in the value of an option. -/
theorem value?_itemsAround (setting : Setting) :
    value? setting (itemsAround file before after) = lastValue? setting (before ++ after) := by
  rw [← value?_map_item, value?, value?]
  simp [itemsAround, valuesOf, List.filterMap_append]

variable (hspelled : Spells (before ++ after) settings)

variable (file) in
include hspelled in
/-- The values that count, with those by default, are the texts of the settings. -/
theorem value?_spelled (setting : Setting) :
    (value? setting (itemsAround file before after)).or (defaultSettings.text? setting) =
      settings.text? setting := by
  rw [value?_itemsAround]
  exact hspelled.values setting

include hspelled in
theorem outputDirectoryOf_spelled :
    outputDirectoryOf (itemsAround file before after) = settings.outputDirectory := by
  have hvalue := value?_spelled file hspelled .outputDirectory
  unfold outputDirectoryOf
  cases h : value? .outputDirectory (itemsAround file before after) <;>
    simp_all [Settings.text?, defaultSettings]

include hspelled in
theorem encodingOf_spelled :
    encodingOf (itemsAround file before after) = settings.encoding := by
  have hvalue := value?_spelled file hspelled .encoding
  unfold encodingOf
  cases h : value? .encoding (itemsAround file before after) <;>
    simp_all [Settings.text?, defaultSettings]

include hspelled in
theorem value?_language_spelled :
    value? .language (itemsAround file before after) = settings.language.map Language.name := by
  simpa [Settings.text?, defaultSettings] using value?_spelled file hspelled .language

include hspelled in
theorem languageOf_spelled :
    languageOf (itemsAround file before after) = settings.language := by
  rw [languageOf, value?_language_spelled hspelled]
  cases settings.language with
  | none => rfl
  | some language => exact Language.ofName?_eq_some_iff.mpr rfl

variable (file) in
include hspelled in
/-- The indentation is given by its digits, or it is the default. -/
theorem value?_indent_spelled :
    value? .indent (itemsAround file before after) = some (Text.decimal settings.indent) ∨
      value? .indent (itemsAround file before after) = none ∧ settings.indent = defaultIndent := by
  have hvalue := value?_spelled file hspelled .indent
  cases h : value? .indent (itemsAround file before after) with
  | some value =>
    left
    simpa [h, Settings.text?] using hvalue
  | none =>
    rw [h] at hvalue
    exact .inr ⟨rfl, (Text.decimal_injective (Option.some.inj hvalue)).symm⟩

include hspelled in
theorem indentOf_spelled (hdigits : (Text.decimal settings.indent).length ≤ Text.digitLimit) :
    indentOf (itemsAround file before after) = settings.indent := by
  unfold indentOf
  rcases value?_indent_spelled file hspelled with hvalue | ⟨hvalue, hdefault⟩
  · rw [hvalue, Option.bind_some, Text.readInt?_decimal, if_pos hdigits]
    rfl
  · rw [hvalue, hdefault]
    rfl

include hspelled in
theorem settingsOf_spelled (hfile : settings.file = some file)
    (hdigits : (Text.decimal settings.indent).length ≤ Text.digitLimit) :
    settingsOf (itemsAround file before after) = settings := by
  have hflag (flag : Flag) :
      (itemsAround file before after).contains (.flag flag) = settings.has flag := by
    rw [Bool.eq_iff_iff, List.contains_iff_mem, mem_itemsAround_flag]
    exact hspelled.flags flag
  rw [settingsOf, operands_itemsAround, outputDirectoryOf_spelled hspelled,
    languageOf_spelled hspelled, encodingOf_spelled hspelled, indentOf_spelled hspelled hdigits,
    hflag, hflag, hflag, hflag, List.head?_cons, ← hfile]
  rfl

/-! ## Faults -/

/-- Digits are a number above zero, unless there are too many. -/
theorem indentFault?_decimal (n : Nat) :
    indentFault? (Text.decimal n) =
      if (Text.decimal n).length ≤ Text.digitLimit then none
      else some (.notANumber (Text.decimal n)) := by
  rw [indentFault?, Text.readInt?_decimal]
  split_ifs with hdigits
  · exact if_neg (by omega)
  · rfl

variable (fs file) in
include hspelled in
theorem fault?_indent_spelled :
    fault? fs (itemsAround file before after) .indent =
      if (Text.decimal settings.indent).length ≤ Text.digitLimit then none
      else some (.usage (.notANumber (Text.decimal settings.indent))) := by
  unfold fault?
  rcases value?_indent_spelled file hspelled with hvalue | ⟨hvalue, hdefault⟩
  · rw [hvalue, Option.bind_some, indentFault?_decimal]
    split_ifs <;> rfl
  · have hdigits : (Text.decimal defaultIndent).length ≤ Text.digitLimit := by decide
    rw [hvalue, hdefault, if_pos hdigits]
    rfl

variable (file) in
include hspelled in
/-- The other options have no fault if the output directory is a path and can be used. -/
theorem fault?_spelled (hnull : Char.ofNat 0 ∉ settings.outputDirectory)
    (hdirectory : unusable? fs settings.outputDirectory = none) {setting : Setting}
    (hsetting : setting ≠ .indent) :
    fault? fs (itemsAround file before after) setting = none := by
  cases setting with
  | outputDirectory =>
    rw [fault?, outputDirectoryOf_spelled hspelled, directoryFault?, List.contains_eq_mem,
      hdirectory, if_neg (by simpa using hnull), Option.map_none]
  | language =>
    rw [fault?, value?_language_spelled hspelled]
    cases settings.language with
    | none => rfl
    | some language =>
      have hname : Language.ofName? language.name = some language :=
        Language.ofName?_eq_some_iff.mpr rfl
      simp [languageFault?, hname]
  | encoding => rfl
  | indent => exact absurd rfl hsetting

/-- All options with a value are checked. -/
theorem mem_checkOrder (items : List Item) (setting : Setting) : setting ∈ checkOrder items := by
  rw [checkOrder, List.mem_eraseDups, List.mem_append]
  right
  cases setting <;> decide

include hspelled in
/-- The items of settings that are spelled out come down to these settings, if the indentation does
not have too many digits. -/
theorem settle_spelled (hfile : settings.file = some file)
    (hnull : Char.ofNat 0 ∉ settings.outputDirectory)
    (hdirectory : unusable? fs settings.outputDirectory = none) :
    settle fs (itemsAround file before after) =
      if (Text.decimal settings.indent).length ≤ Text.digitLimit then .ok settings
      else .error (.usage (.notANumber (Text.decimal settings.indent))) := by
  have hindent := fault?_indent_spelled fs file hspelled
  have hothers {setting : Setting} (hsetting : setting ≠ .indent) :=
    fault?_spelled file hspelled hnull hdirectory hsetting
  rw [settle]
  split_ifs at hindent ⊢ with hdigits
  · have hnone : (checkOrder (itemsAround file before after)).findSome?
        (fault? fs (itemsAround file before after)) = none := by
      rw [List.findSome?_eq_none_iff]
      intro setting _
      by_cases hsetting : setting = .indent
      · rw [hsetting, hindent]
      · exact hothers hsetting
    rw [hnone, operands_itemsAround, settingsOf_spelled hspelled hfile hdigits]
    rfl
  · -- in whatever order the options are checked, only the indentation can have a fault
    cases hchecked : (checkOrder (itemsAround file before after)).findSome?
        (fault? fs (itemsAround file before after)) with
    | none =>
      have hfault := List.findSome?_eq_none_iff.mp hchecked .indent (mem_checkOrder _ _)
      rw [hindent] at hfault
      cases hfault
    | some rejection =>
      obtain ⟨setting, -, hfault⟩ := List.exists_of_findSome?_eq_some hchecked
      by_cases hsetting : setting = .indent
      · rw [hsetting, hindent] at hfault
        rw [← Option.some.inj hfault]
      · rw [hothers hsetting] at hfault
        cases hfault

/-- An output directory can be used if and only if it is no file and, if it is there, may be listed
and changed. -/
theorem unusable?_eq_none_iff {directory : Text} :
    unusable? fs directory = none ↔
      fs.isFileAsSpelled directory = false ∧
        ∀ location, fs.directoryAsSpelled? directory = some location →
          fs.allows .read location = true ∧ fs.allows .write location = true := by
  unfold unusable?
  cases fs.isFileAsSpelled directory with
  | true => simp
  | false =>
    cases fs.directoryAsSpelled? directory with
    | none => simp
    | some location =>
      cases hread : fs.allows .read location <;> cases hwrite : fs.allows .write location <;>
        simp [hread, hwrite]

end Items

/-! ## The command -/

/-- What an argument list that spells the settings out is taken for. -/
theorem interpret_of_arranges (fs : FileSystem) {settings : Settings} {file : Text}
    (hfile : settings.file = some file) (hnull : Char.ofNat 0 ∉ settings.outputDirectory)
    (hdirectory : unusable? fs settings.outputDirectory = none)
    {occurrences : List Occurrence} (hspelled : Spells occurrences settings)
    {arguments : List Text} (harranged : Arranges occurrences file arguments) :
    interpret fs arguments =
      if (Text.decimal settings.indent).length ≤ Text.digitLimit then .ok (.work settings)
      else .error (.usage (.notANumber (Text.decimal settings.indent))) := by
  obtain ⟨before, after, rfl, hread⟩ := readArguments_of_arranges harranged
  rw [interpret, hread]
  dsimp only
  rw [notice?_itemsAround, settle_spelled hspelled hfile hnull hdirectory]
  split_ifs <;> rfl

/-- Every setting can be spelled out in an argument list. However that is done, in any order of the
options, with any values before the last ones, with values that look like options, and with the file
behind two hyphens or, if it has no hyphen in front, anywhere among the options: the list is
accepted, and the command works with just these settings. The output directory has to be a path and
no file, and to be one that may be listed and changed if it is there. The indentation has to have no
more digits than a numeral may have; a longer one is refused as no number. -/
theorem interpret_spelled [Codecs] (fs : FileSystem) (settings : Settings) (file : Text)
    (hfile : settings.file = some file) (hnull : Char.ofNat 0 ∉ settings.outputDirectory)
    (hdirectory : fs.isFileAsSpelled settings.outputDirectory = false)
    (hrights : ∀ location, fs.directoryAsSpelled? settings.outputDirectory = some location →
      fs.allows .read location = true ∧ fs.allows .write location = true) :
    (∃ occurrences, Spells occurrences settings) ∧
    ∀ occurrences, Spells occurrences settings →
      ∀ arguments, Arranges occurrences file arguments →
        ((Text.decimal settings.indent).length ≤ Text.digitLimit →
          interpret fs arguments = .ok (.work settings) ∧
          ∀ engine around,
            let worked := body (settings.refusals around) engine around.clock
              (settings.noColor around) fs settings
            let ended := execute engine around fs arguments
            ended.exit = worked.exit ∧ ended.files = worked.files ∧ ended.calls = worked.calls) ∧
        (Text.digitLimit < (Text.decimal settings.indent).length →
          interpret fs arguments =
            .error (.usage (.notANumber (Text.decimal settings.indent)))) := by
  have husable := unusable?_eq_none_iff.mpr ⟨hdirectory, hrights⟩
  refine ⟨⟨_, spells_spelling settings⟩, fun occurrences hspelled arguments harranged => ?_⟩
  have hinterpret := interpret_of_arranges fs hfile hnull husable hspelled harranged
  constructor
  · intro hdigits
    rw [if_pos hdigits] at hinterpret
    refine ⟨hinterpret, fun engine around => ?_⟩
    rw [execute_work hinterpret]
    exact ⟨rfl, rfl, rfl⟩
  · intro hlong
    rwa [if_neg (Nat.not_le.mpr hlong)] at hinterpret

open SmallSystem in
/-- Values that look like the end of the options and like a flag, one of them repeated, and a file
that looks like an option. -/
theorem interpret_spelled_hyphens :
    let settings : Settings :=
      { defaultSettings with
        file := some "-x".toList
        outputDirectory := "a=b".toList
        language := some .python
        encoding := "--print".toList
        indent := 10
        verbose := true }
    let occurrences : List Occurrence :=
      [.setting .encoding "--".toList false, .setting .outputDirectory "a=b".toList true,
        .setting .indent "10".toList false, .flag .verbose,
        .setting .encoding "--print".toList false, .setting .language "python".toList true]
    settings.file = some "-x".toList ∧ Char.ofNat 0 ∉ settings.outputDirectory ∧
      (FileSystem.empty []).isFileAsSpelled settings.outputDirectory = false ∧
      (FileSystem.empty []).directoryAsSpelled? settings.outputDirectory = none ∧
      Spells occurrences settings ∧ (Text.decimal settings.indent).length ≤ Text.digitLimit ∧
      interpret (FileSystem.empty [])
        ["--encoding".toList, "--".toList, "--output-dir=a=b".toList, "--indent".toList,
          "10".toList, "--verbose".toList, "--encoding".toList, "--print".toList,
          "--language=python".toList, "--".toList, "-x".toList] = .ok (.work settings) := by
  intro settings occurrences
  have hnull : Char.ofNat 0 ∉ settings.outputDirectory := by decide
  have hdirectory : (FileSystem.empty []).isFileAsSpelled settings.outputDirectory = false := rfl
  have hmissing : (FileSystem.empty []).directoryAsSpelled? settings.outputDirectory = none := rfl
  have hspelled : Spells occurrences settings := by
    constructor
    · intro setting
      cases setting <;> decide
    · intro flag
      cases flag <;> decide
  have hdigits : (Text.decimal settings.indent).length ≤ Text.digitLimit := by decide
  obtain ⟨-, hread⟩ := interpret_spelled (FileSystem.empty []) settings "-x".toList rfl hnull
    hdirectory (fun location h => by rw [hmissing] at h; cases h)
  obtain ⟨hworks, -⟩ := hread occurrences hspelled _ .ended
  exact ⟨rfl, hnull, hdirectory, hmissing, hspelled, hdigits, (hworks hdigits).1⟩

/-- A number with one digit more than a numeral may have. -/
def longNumber : Nat := Nat.pow 10 Text.digitLimit

/-- The settings for a file `a`, with the given number of spaces as indentation. -/
def settingsWithIndent (indent : Nat) : Settings :=
  { defaultSettings with
    file := some ['a']
    indent }

/-- The settings for a file `a`, with the given output directory. -/
def settingsWithDirectory (outputDirectory : Text) : Settings :=
  { defaultSettings with
    file := some ['a']
    outputDirectory }

/-- A directory `o` that may not be changed, in the root directory, where the program works. -/
def filesWithLocked : FileSystem :=
  { entries := [([['o']], .directory)]
    workingDirectory := []
    denied := [([['o']], .write)] }

theorem spells_indent (indent : Nat) :
    Spells [.setting .indent (Text.decimal indent) false] (settingsWithIndent indent) := by
  constructor
  · intro setting
    cases setting <;> rfl
  · intro flag
    cases flag <;> simp [settingsWithIndent, defaultSettings, Settings.has]

theorem interpret_long_indent {indent : Nat}
    (hlong : Text.digitLimit < (Text.decimal indent).length) :
    interpret (FileSystem.empty []) ["--indent".toList, Text.decimal indent, ['a']] =
      .error (.usage (.notANumber (Text.decimal indent))) := by
  have harranged : Arranges [.setting .indent (Text.decimal indent) false] ['a']
      ["--indent".toList, Text.decimal indent, ['a']] :=
    .among (List.append_nil _).symm (by decide)
  have hnull : Char.ofNat 0 ∉ defaultOutputDirectory := by decide
  have hinterpret := interpret_of_arranges (FileSystem.empty []) rfl hnull rfl
    (spells_indent indent) harranged
  exact hinterpret.trans (if_neg (Nat.not_le.mpr hlong))

theorem spells_directory (outputDirectory : Text) :
    Spells [.setting .outputDirectory outputDirectory false]
      (settingsWithDirectory outputDirectory) := by
  constructor
  · intro setting
    cases setting <;> rfl
  · intro flag
    cases flag <;> simp [settingsWithDirectory, defaultSettings, Settings.has]

/-- Three spelled out settings that are not accepted: an indentation with a digit more than a
numeral may have, an output directory that is no path, and one that is a directory but may not be
changed. -/
theorem long_numeral_refused :
    let fs := FileSystem.empty []
    (Spells [.setting .indent (Text.decimal longNumber) false] (settingsWithIndent longNumber) ∧
      fs.isFileAsSpelled (settingsWithIndent longNumber).outputDirectory = false ∧
      interpret fs ["--indent".toList, Text.decimal longNumber, ['a']] =
        .error (.usage (.notANumber (Text.decimal longNumber)))) ∧
    (Spells [.setting .outputDirectory [Char.ofNat 0] false]
        (settingsWithDirectory [Char.ofNat 0]) ∧
      fs.isFileAsSpelled [Char.ofNat 0] = false ∧
      interpret fs ["--output-dir".toList, [Char.ofNat 0], ['a']] =
        .error (.failure (.refused ⟨.embeddedNull, Path.ofText [Char.ofNat 0]⟩))) ∧
    Spells [.setting .outputDirectory ['o'] false] (settingsWithDirectory ['o']) ∧
      filesWithLocked.isDirectory (Path.ofText ['o']) = .ok true ∧
      interpret filesWithLocked ["--output-dir".toList, ['o'], ['a']] =
        .error (.usage (.unusableDirectory .notWritable ['o'])) := by
  intro fs
  have hlong : Text.digitLimit < (Text.decimal longNumber).length := by
    unfold longNumber
    apply Text.lt_length_decimal_pow
  exact ⟨⟨spells_indent longNumber, rfl, interpret_long_indent hlong⟩,
    ⟨spells_directory _, rfl, rfl⟩, spells_directory _, rfl, rfl⟩

end SyntaxReport.Command
