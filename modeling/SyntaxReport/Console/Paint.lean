import SyntaxReport.Console.Inert
import SyntaxReport.Text.DecimalDigit

/-!
# Colours on the console

A console shows a text in bright red or green if the control sequences for that surround it. The
environment variable NO_COLOR turns colours off as soon as it is set, whatever its value.

* `Tint.paint` puts the control sequences around a text.
* `stripSequences` takes control sequences out of a text, for a stream that is no terminal.
-/

namespace SyntaxReport.Console

/-- The colours in use. -/
inductive Tint where
  | red
  | green
  deriving DecidableEq, Repr

/-- The control sequence with the given parameter. -/
def sequence (parameter : Text) : Text :=
  escape :: '[' :: parameter ++ ['m']

/-- The parameter that stands for a colour. -/
def Tint.parameter : Tint → Text
  | red => ['3', '1']
  | green => ['3', '2']

/-- The text in a bright colour, or as it is where NO_COLOR is set. -/
def Tint.paint (noColor : Option Text) (tint : Tint) (t : Text) : Text :=
  match noColor with
  | some _ => t
  | none => sequence ['1'] ++ sequence tint.parameter ++ t ++ sequence ['0']

/-- How much of a control sequence has been read. -/
inductive Stage where
  /-- Nothing. -/
  | outside
  /-- The character 01, which may stand before a sequence. -/
  | marked
  /-- The character that starts a sequence. -/
  | started
  /-- The opening bracket, and parameters. -/
  | opened
  /-- All of a sequence, but not the character 02, which may stand behind it. -/
  | ended
  deriving DecidableEq, Repr

/-- Whether a character belongs to the parameters of a control sequence. -/
def isParameter (c : Char) : Bool :=
  c == ';' || (Text.digitValue? c).isSome

/-- Take control sequences out of the rest of a text; `held` is what has been read of a sequence
that is not complete. -/
def stripFrom : Stage → Text → Text → Text
  | _, held, [] => held
  | stage, held, c :: rest =>
    if stage = .marked ∧ c = escape then stripFrom .started (held ++ [c]) rest
    else if stage = .started ∧ c = '[' then stripFrom .opened (held ++ [c]) rest
    else if stage = .opened ∧ isParameter c then stripFrom .opened (held ++ [c]) rest
    else if stage = .opened ∧ c.isAlpha then stripFrom .ended [] rest
    else if stage = .ended ∧ c = '\x02' then stripFrom .outside [] rest
    else if c = '\x01' then held ++ stripFrom .marked [c] rest
    else if c = escape then held ++ stripFrom .started [c] rest
    else held ++ c :: stripFrom .outside [] rest

/-- The text without control sequences. -/
def stripSequences (t : Text) : Text :=
  stripFrom .outside [] t

end SyntaxReport.Console
