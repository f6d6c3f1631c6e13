import SyntaxReport.Command.Settings
import SyntaxReport.Text.Quoted

/-!
# What the command says about itself

The line of usage, the page of help, the version, and the words for an argument list that the
command does not accept.
-/

namespace SyntaxReport.Command

/-- The version of the command. -/
def version : Text := "0.1.0".toList

/-- How the command is called. -/
def usageLine : Text := "Usage: tsdump [OPTIONS] FILE".toList

/-- The line that names command and version. -/
def versionLine : Text := "tsdump, version ".toList ++ version

/-- The page of help, line by line, for a width of 80 columns. -/
def helpLines : List String :=
  ["",
   "  Parse a source file with tree-sitter and save an indented dump of its syntax",
   "  tree.",
   "",
   "Options:",
   "  -o, --output-dir DIRECTORY      The directory to save reports in. Created if",
   "                                  absent.  [default: parse_results]",
   "  -l, --language [c|javascript|python]",
   "                                  The grammar used to parse the file. Guessed",
   "                                  from the file suffix by default, falling",
   "                                  back to javascript.",
   "  -e, --encoding ENCODING         The encoding scheme used to read the source",
   "                                  file and write the report.  [default: utf-8]",
   "  --indent INTEGER RANGE          Number of spaces per nesting level.",
   "                                  [default: 2; x>=0]",
   "  -p, --print                     Print the report to the console instead of",
   "                                  saving it.",
   "  -q, --quiet                     Suppress all output except the error",
   "                                  channel.",
   "  -v, --verbose                   Increase verboseness.",
   "  --color-off                     Turn off color output. For compatibility",
   "                                  with environment without color code support.",
   "  --version                       Show the version and exit.",
   "  -h, --help                      Show this message and exit.",
   "",
   "  Reports are named after the input file, e.g. `src/app.js` is saved as",
   "  `parse_results/app.txt`. An existing report of the same name is overwritten."]

/-- The page of help, without its last newline. -/
def helpPage : Text :=
  Text.joinWith ['\n'] (usageLine :: helpLines.map String.toList)

/-- The text that a notice prints. -/
def Notice.text : Notice → Text
  | help => helpPage
  | version => versionLine

/-- The names of an option as they stand in a message. -/
def Setting.title : Setting → Text
  | outputDirectory => "'-o' / '--output-dir'".toList
  | language => "'-l' / '--language'".toList
  | encoding => "'-e' / '--encoding'".toList
  | indent => "'--indent'".toList

/-- The beginning of a message about the value of an option. -/
def invalidValue (setting : Setting) : Text :=
  "Invalid value for ".toList ++ setting.title ++ ": ".toList

/-- The question, behind a space, whether one of some names is meant; without names there is none.
-/
def didYouMean : List Text → Text
  | [] => []
  | [name] => " Did you mean ".toList ++ Text.quote name ++ ['?']
  | names =>
    " (Did you mean one of: ".toList ++ Text.joinWith ", ".toList (names.map Text.quote) ++
      "?)".toList

/-- What is wrong with an argument that cannot be read. -/
def ArgumentError.message : ArgumentError → Text
  | noSuchOption name similar =>
    "No such option ".toList ++ Text.quote name ++ ['.'] ++ didYouMean similar
  | missingValue name => "Option ".toList ++ Text.quote name ++ " requires an argument.".toList
  | unwantedValue name => "Option ".toList ++ Text.quote name ++ " does not take a value.".toList

/-- What is wrong with an output directory. -/
def DirectoryFault.words : DirectoryFault → Text
  | isFile => "is a file".toList
  | notReadable => "is not readable".toList
  | notWritable => "is not writable".toList

/-- What is wrong with an argument list. -/
def UsageError.message : UsageError → Text
  | argument error => error.message
  | notANumber value =>
    invalidValue .indent ++ Text.quote value ++ " is not a valid integer range.".toList
  | belowZero value =>
    invalidValue .indent ++ Text.decimalInt value ++ " is not in the range x>=0.".toList
  | notALanguage value =>
    invalidValue .language ++ Text.quote value ++ " is not one of ".toList ++
      Text.joinWith ", ".toList (Language.all.map fun language => Text.quote language.name) ++
      ['.']
  | unusableDirectory fault value =>
    invalidValue .outputDirectory ++ "Directory ".toList ++ Text.quote value ++ [' '] ++ fault.words ++
      ['.']
  | surplus operands =>
    (if operands.length = 1 then "Got unexpected extra argument (".toList
      else "Got unexpected extra arguments (".toList) ++
      Text.joinWith [' '] operands ++ [')']

/-- Whether the usage is shown with an error: not where an option and its value do not match. -/
def UsageError.showsUsage : UsageError → Bool
  | argument (.missingValue _) => false
  | argument (.unwantedValue _) => false
  | _ => true

/-- The text printed for an argument list that the command does not accept. -/
def UsageError.text (error : UsageError) : Text :=
  let line := "Error: ".toList ++ error.message
  if error.showsUsage then
    Text.joinWith ['\n'] [usageLine, "Try 'tsdump --help' for help.".toList, [], line]
  else line

end SyntaxReport.Command
