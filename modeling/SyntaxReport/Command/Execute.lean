import SyntaxReport.Command.Help
import SyntaxReport.Command.Run
import SyntaxReport.Console.Title

/-!
# The command

`execute` is the whole command: it reads the argument list, checks the flags and the file, and runs
the job. The exit code is 0 for success, 1 for a failure, and 2 for an argument list that is not
accepted; only a path that cannot be looked up, an indentation that cannot be made, and a line about
a failure that the error stream refuses end the command without one.
-/

namespace SyntaxReport.Command

open Calendar (DateTime)
open Console (Tint asksForTitle converted)

/-- What the command finds around it: the clock, NO_COLOR if it is set, and whether both streams are
terminals. -/
structure Surroundings where
  clock : DateTime
  noColor : Option Text
  terminal : Bool
  deriving DecidableEq, Repr

/-- How the command ends: its exit code or the failure that escapes it, the text on both streams,
what is added to the output stream when the process ends, the file system, and the engine calls. -/
structure Outcome where
  exit : Except DumpError Nat
  out : Text
  err : Text
  closing : Text
  files : FileSystem
  calls : List EngineCall

/-- End with exit code 1 and a text on the error stream, without having done anything. -/
def refuse (refusals : Refusals) (fs : FileSystem) (text : Text) : BodyOutcome :=
  if refusals.err text then ⟨.error .noTitle, ⟨[], []⟩, fs, []⟩ else ⟨.ok 1, ⟨[], [text]⟩, fs, []⟩

/-- The line about a file that is not there. -/
def notFoundLine (file : Text) : Text :=
  "Error: File not found: ".toList ++ file

/-- The number that a count of characters cannot reach: it is a whole number of 63 bits. -/
def countLimit : Nat := 0x8000000000000000

/-- The job that the settings describe for a file. -/
def Settings.job (settings : Settings) (file : Text) : Job :=
  { file
    language := settings.language.map Language.name
    encoding := settings.encoding
    indent := Text.spaces settings.indent }

section Body

variable [Codecs]

/-- The work of the command with accepted settings. -/
def body (refusals : Refusals) (engine : Engine) (clock : DateTime) (noColor : Option Text)
    (fs : FileSystem) (settings : Settings) : BodyOutcome :=
  match checkFlags settings.quiet settings.verbose settings.print with
  | .error error => refuse refusals fs (Tint.red.paint noColor error.message)
  | .ok () =>
    match settings.file with
    | none => refuse refusals fs usageLine
    | some file =>
      let path := Path.ofText file
      match fs.isFile path with
      | .error fault => ⟨.error (.refused ⟨fault, path⟩), ⟨[], []⟩, fs, []⟩
      | .ok false => refuse refusals fs (Tint.red.paint noColor (notFoundLine file))
      | .ok true =>
        if countLimit ≤ settings.indent then ⟨.error .countTooLarge, ⟨[], []⟩, fs, []⟩
        else
          runOn refusals engine clock noColor fs (settings.job file) settings.outputDirectory
            settings.print settings.verbose

end Body

/-- NO_COLOR as the body of the command finds it. -/
def Settings.noColor (settings : Settings) (around : Surroundings) : Option Text :=
  if settings.colorOff then some "true".toList else around.noColor

/-- Whether the error stream shows texts as they are: a terminal does, and so does every stream if
colours are turned off. -/
def Settings.showsErr (settings : Settings) (around : Surroundings) : Bool :=
  around.terminal || settings.colorOff

/-- Whether texts for the output stream stay as they are: as for the error stream, but that a stream
which is silenced is no terminal. -/
def Settings.showsOut (settings : Settings) (around : Surroundings) : Bool :=
  around.terminal && !settings.quiet || settings.colorOff

/-- What the streams refuse. -/
def Settings.refusals (settings : Settings) (around : Surroundings) : Refusals where
  out text := !settings.showsOut around && asksForTitle text
  err text := !settings.showsErr around && asksForTitle text

/-- The texts as a stream gets them: a stream that is no terminal gets no control sequences, unless
colours are turned off and the texts go to the stream as they are. -/
def Settings.filter (settings : Settings) (around : Surroundings) (texts : List Text) : Text :=
  if around.terminal || settings.colorOff then printedText texts
  else printedText (texts.map converted)

/-- What the output stream gets when the process ends: a terminal gets its colours back, unless
colours have been turned off or the stream has been silenced. -/
def Settings.closing (settings : Settings) (around : Surroundings) : Text :=
  if around.terminal && !settings.colorOff && !settings.quiet then Console.sequence ['0'] else []

variable [Codecs]

/-- The command, given its argument list. -/
def execute (engine : Engine) (around : Surroundings) (fs : FileSystem) (arguments : List Text) :
    Outcome :=
  match interpret fs arguments with
  | .error (.usage error) => ⟨.ok 2, [], printedText [error.text], [], fs, []⟩
  | .error (.failure error) => ⟨.error error, [], [], [], fs, []⟩
  | .ok (.notice notice) => ⟨.ok 0, printedText [notice.text], [], [], fs, []⟩
  | .ok (.work settings) =>
    let ended := body (settings.refusals around) engine around.clock (settings.noColor around) fs
      settings
    let out := if settings.quiet then [] else settings.filter around ended.printed.out
    let err := settings.filter around ended.printed.err
    ⟨ended.exit, out, err, settings.closing around, ended.files, ended.calls⟩

end SyntaxReport.Command
