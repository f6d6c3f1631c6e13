import SyntaxReport.Console.Paint

/-!
# Commands to a terminal

A command to a terminal stands between an escape character with a closing bracket behind it and the
next bell. A stream that is no terminal takes commands out of a text, and then the control
sequences. But it does not take out the command for a title: it tries to carry it out, cannot, and
refuses the text.

All commands of a text are found before the first is taken out. Each is taken out from the place
where it has been found, although the text has become shorter by then; so behind the first command
it is other characters that go.

* `commands` finds the commands of a text.
* `asksForTitle` tells the texts that a stream refuses, `converted` is what it makes of the others.
-/

namespace SyntaxReport.Console

/-- The character that ends a command. -/
def bell : Char := '\x07'

/-- A command to a terminal: the positions of its start and of what is behind it, and the text
between its brackets. -/
structure TerminalCommand where
  start : Nat
  stop : Nat
  parameters : Text
  deriving DecidableEq, Repr

/-- Whether a command is for a title: of two parameters, the first is none, or of a title. -/
def TerminalCommand.isForTitle (command : TerminalCommand) : Bool :=
  match Text.pieces ';' command.parameters with
  | [kind, _] => [[], ['0'], ['2'], ['0', '2']].contains kind
  | _ => false

/-- How much of a command has been read. -/
inductive CommandStage where
  /-- Nothing; `marked` says that the character 01 came last, which may stand before a command. -/
  | outside (marked : Bool)
  /-- The escape character. -/
  | started (start : Nat)
  /-- The bracket, and the parameters. -/
  | opened (start : Nat) (parameters : Text)
  deriving DecidableEq, Repr

/-- The commands in the rest of a text, from `position` on. The character 02 may stand behind one.
-/
def commandsFrom (position : Nat) : CommandStage → Text → List TerminalCommand
  | _, [] => []
  | .outside marked, c :: rest =>
    if c = escape ∧ rest.head? = some ']' then
      commandsFrom (position + 1) (.started (if marked then position - 1 else position)) rest
    else commandsFrom (position + 1) (.outside (c == '\x01')) rest
  | .started start, _ :: rest => commandsFrom (position + 1) (.opened start []) rest
  | .opened start parameters, c :: rest =>
    if c = bell then
      let stop := if rest.head? = some '\x02' then position + 2 else position + 1
      ⟨start, stop, parameters⟩ :: commandsFrom (position + 1) (.outside false) rest
    else commandsFrom (position + 1) (.opened start (parameters ++ [c])) rest

/-- The commands of a text. -/
def commands (t : Text) : List TerminalCommand :=
  commandsFrom 0 (.outside false) t

/-- Whether a stream that is no terminal refuses the text. -/
def asksForTitle (t : Text) : Bool :=
  (commands t).any TerminalCommand.isForTitle

/-- The text without commands. -/
def dropCommands (t : Text) : Text :=
  (commands t).foldl (fun t command => t.take command.start ++ t.drop command.stop) t

/-- What a stream that is no terminal shows of a text that it does not refuse. -/
def converted (t : Text) : Text :=
  stripSequences (dropCommands t)

end SyntaxReport.Console
