import SyntaxReport.Command.Option
import SyntaxReport.Dump.Job
import SyntaxReport.Text.Numeral

/-!
# Settings of the command

The items of an argument list come down to a notice, or to settings with a value for each option.
An option that is repeated has its last value, and one that is not given its default. Values are
checked in the order in which their options first appear, the defaults behind them, and last of all
that there is at most one operand.
-/

namespace SyntaxReport.Command

/-- The settings that the command works with. -/
structure Settings where
  file : Option Text
  outputDirectory : Text
  language : Option Language
  encoding : Text
  indent : Nat
  print : Bool
  quiet : Bool
  verbose : Bool
  colorOff : Bool
  deriving DecidableEq, Repr

/-- What the command is asked for. -/
inductive Invocation where
  | notice (notice : Notice)
  | work (settings : Settings)
  deriving DecidableEq, Repr

/-- Why something that is there cannot be the output directory. -/
inductive DirectoryFault where
  | isFile
  | notReadable
  | notWritable
  deriving DecidableEq, Repr

/-- An argument list that the command does not accept. -/
inductive UsageError where
  /-- It cannot be read. -/
  | argument (error : ArgumentError)
  /-- The indentation is no whole number. -/
  | notANumber (value : Text)
  /-- The indentation is a number below zero. -/
  | belowZero (value : Int)
  /-- The language is not registered. -/
  | notALanguage (value : Text)
  /-- The output directory is a file, or may not be used. -/
  | unusableDirectory (fault : DirectoryFault) (value : Text)
  /-- There are operands beyond the file. -/
  | surplus (operands : List Text)
  deriving DecidableEq, Repr

/-- Why the command does not get to its work. -/
inductive Rejection where
  /-- The argument list is not accepted. -/
  | usage (error : UsageError)
  /-- A value cannot even be checked. -/
  | failure (error : DumpError)
  deriving DecidableEq, Repr

/-- The values given for an option, the last one last. -/
def valuesOf (setting : Setting) (items : List Item) : List Text :=
  items.filterMap fun
    | .setting other value => if other = setting then some value else none
    | _ => none

/-- The value of an option that counts: the last one. -/
def value? (setting : Setting) (items : List Item) : Option Text :=
  (valuesOf setting items).getLast?

/-- The operands, in order. -/
def operands (items : List Item) : List Text :=
  items.filterMap fun
    | .operand text => some text
    | _ => none

/-- The notice that is asked for first. -/
def notice? (items : List Item) : Option Notice :=
  items.findSome? fun
    | .notice notice => some notice
    | _ => none

/-- The number of spaces of one level unless another is asked for. -/
def defaultIndent : Nat := 2

/-- The output directory that the items ask for. -/
def outputDirectoryOf (items : List Item) : Text :=
  (value? .outputDirectory items).getD defaultOutputDirectory

/-- The language that the items ask for. -/
def languageOf (items : List Item) : Option Language :=
  (value? .language items).bind Language.ofName?

/-- The encoding that the items ask for. -/
def encodingOf (items : List Item) : Text :=
  (value? .encoding items).getD Encoding.defaultName

/-- The number of spaces of one level that the items ask for. -/
def indentOf (items : List Item) : Nat :=
  (((value? .indent items).bind Text.readInt?).map Int.toNat).getD defaultIndent

/-- What is wrong with a name of a language: it is not registered. -/
def languageFault? (value : Text) : Option UsageError :=
  if (Language.ofName? value).isSome then none else some (.notALanguage value)

/-- What is wrong with an indentation: it is no whole number, or below zero. -/
def indentFault? (value : Text) : Option UsageError :=
  match Text.readInt? value with
  | none => some (.notANumber value)
  | some number => if number < 0 then some (.belowZero number) else none

/-- What is wrong with an output directory that is there: it is a file, or may not be listed or
changed. -/
def unusable? (fs : FileSystem) (value : Text) : Option DirectoryFault :=
  if fs.isFileAsSpelled value then some .isFile
  else
    match fs.directoryAsSpelled? value with
    | none => none
    | some location =>
      if !fs.allows .read location then some .notReadable
      else if !fs.allows .write location then some .notWritable
      else none

/-- What is wrong with an output directory: it cannot be used, or it is no path and cannot be looked
up. It may be missing. -/
def directoryFault? (fs : FileSystem) (value : Text) : Option Rejection :=
  if value.contains (Char.ofNat 0) then
    some (.failure (.refused ⟨.embeddedNull, Path.ofText value⟩))
  else (unusable? fs value).map fun fault => .usage (.unusableDirectory fault value)

/-- What is wrong with the value that an option has, given or by default. -/
def fault? (fs : FileSystem) (items : List Item) : Setting → Option Rejection
  | .outputDirectory => directoryFault? fs (outputDirectoryOf items)
  | .language => ((value? .language items).bind languageFault?).map .usage
  | .encoding => none
  | .indent => ((value? .indent items).bind indentFault?).map .usage

/-- The options with a value, in the order of their declaration. -/
def Setting.all : List Setting := [.outputDirectory, .language, .encoding, .indent]

/-- The options with a value in the order in which their values are checked: the given ones by their
first appearance, then the others. -/
def checkOrder (items : List Item) : List Setting :=
  let given := items.filterMap fun
    | .setting setting _ => some setting
    | _ => none
  (given ++ Setting.all).eraseDups

/-- The settings that the items describe, whether or not their values are accepted. -/
def settingsOf (items : List Item) : Settings :=
  { file := (operands items).head?
    outputDirectory := outputDirectoryOf items
    language := languageOf items
    encoding := encodingOf items
    indent := indentOf items
    print := items.contains (.flag .print)
    quiet := items.contains (.flag .quiet)
    verbose := items.contains (.flag .verbose)
    colorOff := items.contains (.flag .colorOff) }

/-- The settings that the items describe, if all values are accepted and there is at most one
operand. -/
def settle (fs : FileSystem) (items : List Item) : Except Rejection Settings :=
  match (checkOrder items).findSome? (fault? fs items) with
  | some rejection => .error rejection
  | none =>
    match (operands items).tail with
    | [] => .ok (settingsOf items)
    | surplus => .error (.usage (.surplus surplus))

/-- What an argument list asks the command for. A notice comes before all checks of values. -/
def interpret (fs : FileSystem) (arguments : List Text) : Except Rejection Invocation :=
  match readArguments arguments with
  | .error error => .error (.usage (.argument error))
  | .ok items =>
    match notice? items with
    | some notice => .ok (.notice notice)
    | none => (settle fs items).map .work

/-- Refuse flags that exclude each other. -/
def checkFlags (quiet verbose print : Bool) : Except DumpError Unit :=
  if quiet && verbose then .error (.conflictingFlags .quietVerbose)
  else if quiet && print then .error (.conflictingFlags .quietPrint)
  else .ok ()

end SyntaxReport.Command
