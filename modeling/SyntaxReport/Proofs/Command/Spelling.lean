import Mathlib.Data.List.TakeWhile
import SyntaxReport.Command.Settings

/-!
# Settings spelled out

All settings of the command can be asked for by long names. Each option may be given several times,
of which the last counts, or not at all for its default. A value stands behind an equals sign or in
the next argument, and is taken as it is, even if it looks like an option or like the end of the
options. The file stands behind the options and two hyphens, or, if it has no hyphen in front,
anywhere among the options.

Results:
* `spells_spelling`: all settings can be spelled out.
* `readArguments_argumentsOf`: the arguments of occurrences are read as their items.
* `readArguments_of_arranges`: so an argument list is read as the file between these items.
-/

namespace SyntaxReport.Command

/-! ## Writing options -/

/-- The long name of an option with a value. -/
def Setting.longName : Setting → Text
  | outputDirectory => "--output-dir".toList
  | language => "--language".toList
  | encoding => "--encoding".toList
  | indent => "--indent".toList

/-- The long name of a flag. -/
def Flag.longName : Flag → Text
  | print => "--print".toList
  | quiet => "--quiet".toList
  | verbose => "--verbose".toList
  | colorOff => "--color-off".toList

/-- An occurrence of an option under its long name. A value is attached to the name by an equals
sign, or follows in an argument of its own. -/
inductive Occurrence where
  | setting (setting : Setting) (value : Text) (attached : Bool)
  | flag (flag : Flag)
  deriving DecidableEq, Repr

/-- The arguments of an occurrence. -/
def Occurrence.arguments : Occurrence → List Text
  | .setting option value true => [option.longName ++ '=' :: value]
  | .setting option value false => [option.longName, value]
  | .flag option => [option.longName]

/-- The arguments of occurrences one after another. -/
def argumentsOf (occurrences : List Occurrence) : List Text :=
  occurrences.flatMap Occurrence.arguments

/-- The argument lists for a file and options in the given order. -/
inductive Arranges (occurrences : List Occurrence) (file : Text) : List Text → Prop
  /-- Two hyphens end the options, and the file stands behind them. -/
  | ended : Arranges occurrences file (argumentsOf occurrences ++ [endOfOptions, file])
  /-- The file stands among the options; it does not look like one. -/
  | among {before after : List Occurrence} :
      occurrences = before ++ after → file.head? ≠ some '-' →
      Arranges occurrences file (argumentsOf before ++ file :: argumentsOf after)

/-- The value that an occurrence gives an option. -/
def Occurrence.value? (wanted : Setting) : Occurrence → Option Text
  | .setting option value _ => if option = wanted then some value else none
  | .flag _ => none

/-- The value that an option is given last. -/
def lastValue? (wanted : Setting) : List Occurrence → Option Text
  | [] => none
  | occurrence :: more => (lastValue? wanted more).or (occurrence.value? wanted)

/-- The settings without any option. -/
def defaultSettings : Settings :=
  { file := none
    outputDirectory := defaultOutputDirectory
    language := none
    encoding := Encoding.defaultName
    indent := defaultIndent
    print := false
    quiet := false
    verbose := false
    colorOff := false }

/-- The text that an option with a value takes for the settings. -/
def Settings.text? (settings : Settings) : Setting → Option Text
  | .outputDirectory => some settings.outputDirectory
  | .language => settings.language.map Language.name
  | .encoding => some settings.encoding
  | .indent => some (Text.decimal settings.indent)

/-- Whether a flag is set. -/
def Settings.has (settings : Settings) : Flag → Bool
  | .print => settings.print
  | .quiet => settings.quiet
  | .verbose => settings.verbose
  | .colorOff => settings.colorOff

/-- Occurrences that spell the settings out: each option has its text last, or does not occur and
its text is the default; the flags that occur are those that are set. -/
structure Spells (occurrences : List Occurrence) (settings : Settings) : Prop where
  values : ∀ setting, (lastValue? setting occurrences).or (defaultSettings.text? setting) =
    settings.text? setting
  flags : ∀ flag, .flag flag ∈ occurrences ↔ settings.has flag

/-! ### Every setting has a spelling -/

/-- All flags. -/
def Flag.all : List Flag := [.print, .quiet, .verbose, .colorOff]

/-- One spelling of the settings: all options, each once, in the order of their declaration. -/
def Settings.spelling (settings : Settings) : List Occurrence :=
  (Setting.all.filterMap fun setting => (settings.text? setting).map (.setting setting · false)) ++
    (Flag.all.filter settings.has).map .flag

theorem lastValue?_append (wanted : Setting) (first second : List Occurrence) :
    lastValue? wanted (first ++ second) =
      (lastValue? wanted second).or (lastValue? wanted first) := by
  induction first with
  | nil => simp [lastValue?]
  | cons occurrence more ih => rw [List.cons_append, lastValue?, ih, lastValue?, Option.or_assoc]

theorem lastValue?_map_flag (wanted : Setting) (flags : List Flag) :
    lastValue? wanted (flags.map .flag) = none := by
  induction flags with
  | nil => rfl
  | cons flag more ih => rw [List.map_cons, lastValue?, ih, Option.none_or, Occurrence.value?]

theorem spells_spelling (settings : Settings) : Spells settings.spelling settings := by
  constructor
  · intro setting
    rw [Settings.spelling, lastValue?_append, lastValue?_map_flag, Option.none_or]
    cases hlanguage : settings.language <;> cases setting <;>
      simp [Setting.all, Settings.text?, hlanguage, lastValue?, Occurrence.value?, defaultSettings]
  · intro flag
    have hall : flag ∈ Flag.all := by cases flag <;> decide
    simp [Settings.spelling, hall]

/-! ## Reading options -/

/-- The item that an occurrence is read as. -/
def Occurrence.item : Occurrence → Item
  | .setting option value _ => .setting option value
  | .flag option => .flag option

theorem splitValue_of_not_mem {name : Text} (h : '=' ∉ name) : splitValue name = (name, none) := by
  have hdrop : name.dropWhile (· != '=') = [] := by
    rw [List.dropWhile_eq_nil_iff]
    intro c hc
    exact bne_iff_ne.mpr fun heq => h (heq ▸ hc)
  rw [splitValue, hdrop]

/-- An argument is cut at its first equals sign. -/
theorem splitValue_append {name : Text} (h : '=' ∉ name) (value : Text) :
    splitValue (name ++ '=' :: value) = (name, some value) := by
  have hne : ∀ c ∈ name, (c != '=') = true := fun c hc => bne_iff_ne.mpr fun heq => h (heq ▸ hc)
  have hdrop : (name ++ '=' :: value).dropWhile (· != '=') = '=' :: value := by
    rw [List.dropWhile_append_of_pos hne]
    rfl
  have htake : (name ++ '=' :: value).takeWhile (· != '=') = name := by
    rw [List.takeWhile_append_of_pos hne]
    simp
  rw [splitValue, hdrop, htake]

/-- A long name is one that is declared, and is no more than a name. -/
structure IsLongName (name : Text) (switch : Switch) : Prop where
  lookup_eq : longNames.lookup name = some switch
  equals_not_mem : '=' ∉ name
  isSwitch_append : ∀ more, isSwitch (name ++ more)
  ne_endOfOptions : ∀ more, name ++ more ≠ endOfOptions

theorem Setting.isLongName (setting : Setting) :
    IsLongName setting.longName (.setting setting) := by
  cases setting <;> exact ⟨rfl, by decide, fun _ => rfl, fun _ h => by cases h⟩

theorem Flag.isLongName (flag : Flag) : IsLongName flag.longName (.flag flag) := by
  cases flag <;> exact ⟨rfl, by decide, fun _ => rfl, fun _ h => by cases h⟩

/-- The arguments of an occurrence are read as its item. -/
theorem readArguments_occurrence (occurrence : Occurrence) (rest : List Text) :
    readArguments (occurrence.arguments ++ rest) =
      (readArguments rest).map (occurrence.item :: ·) := by
  cases occurrence with
  | setting setting value attached =>
    have hname := setting.isLongName
    cases attached with
    | true =>
      have hread : readSwitch (setting.longName ++ '=' :: value) =
          .ok ⟨[.setting setting value], none⟩ := by
        rw [readSwitch, splitValue_append hname.equals_not_mem]
        simp only [hname.lookup_eq, readLong]
      show readArguments ((setting.longName ++ '=' :: value) :: rest) = _
      rw [readArguments, if_neg (hname.ne_endOfOptions _), hname.isSwitch_append, hread]
      rfl
    | false =>
      have hread : readSwitch setting.longName = .ok ⟨[], some (setting, setting.longName)⟩ := by
        rw [readSwitch, splitValue_of_not_mem hname.equals_not_mem]
        simp only [hname.lookup_eq, readLong]
      have hne := hname.ne_endOfOptions []
      have hswitch := hname.isSwitch_append []
      rw [List.append_nil] at hne hswitch
      show readArguments (setting.longName :: value :: rest) = _
      rw [readArguments, if_neg hne, hswitch, hread]
      rfl
  | flag flag =>
    have hname := flag.isLongName
    have hread : readSwitch flag.longName = .ok ⟨[.flag flag], none⟩ := by
      rw [readSwitch, splitValue_of_not_mem hname.equals_not_mem]
      simp only [hname.lookup_eq, readLong]
    have hne := hname.ne_endOfOptions []
    have hswitch := hname.isSwitch_append []
    rw [List.append_nil] at hne hswitch
    show readArguments (flag.longName :: rest) = _
    rw [readArguments, if_neg hne, hswitch, hread]
    rfl

/-- The arguments of occurrences are read as their items, whatever the values look like. -/
theorem readArguments_argumentsOf (occurrences : List Occurrence) (rest : List Text) :
    readArguments (argumentsOf occurrences ++ rest) =
      (readArguments rest).map (occurrences.map Occurrence.item ++ ·) := by
  induction occurrences with
  | nil => cases h : readArguments rest <;> simp [argumentsOf, h, Except.map]
  | cons occurrence more ih =>
    rw [argumentsOf, List.flatMap_cons, List.append_assoc, readArguments_occurrence,
      ← argumentsOf, ih]
    cases readArguments rest <;> rfl

/-- The items of a file between occurrences of options. -/
def itemsAround (file : Text) (before after : List Occurrence) : List Item :=
  before.map Occurrence.item ++ .operand file :: after.map Occurrence.item

/-- The file ends the reading: it stands alone behind two hyphens, or it is no option. -/
theorem readArguments_of_arranges {occurrences : List Occurrence} {file : Text}
    {arguments : List Text} (h : Arranges occurrences file arguments) :
    ∃ before after, occurrences = before ++ after ∧
      readArguments arguments = .ok (itemsAround file before after) := by
  cases h with
  | ended =>
    refine ⟨occurrences, [], (List.append_nil _).symm, ?_⟩
    rw [readArguments_argumentsOf, readArguments, if_pos rfl]
    rfl
  | @among before after hsplit hhead =>
    refine ⟨before, after, hsplit, ?_⟩
    have hne : file ≠ endOfOptions := by
      rintro rfl
      exact hhead rfl
    have hplain : isSwitch file = false := by
      unfold isSwitch
      split
      · exact absurd rfl hhead
      · rfl
    have hafter := readArguments_argumentsOf after []
    rw [List.append_nil] at hafter
    rw [readArguments_argumentsOf, readArguments, if_neg hne, hplain, hafter]
    simp [readArguments, Except.map, itemsAround]

end SyntaxReport.Command
