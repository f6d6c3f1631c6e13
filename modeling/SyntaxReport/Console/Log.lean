import SyntaxReport.Console.Paint

/-!
# Numbered log lines

A log line is an entry behind its number, a point and a space. The number is green, the entry is
not coloured.
-/

namespace SyntaxReport.Console

/-- The log line of an entry. -/
def logLine (noColor : Option Text) (number : Nat) (entry : Text) : Text :=
  Tint.green.paint noColor (Text.decimal number ++ ['.', ' ']) ++ entry

/-- The log lines of some entries, numbered from `number` on. -/
def logLinesFrom (noColor : Option Text) (number : Nat) : List Text → List Text
  | [] => []
  | entry :: more => logLine noColor number entry :: logLinesFrom noColor (number + 1) more

/-- The log lines of a fresh log. -/
def logLines (noColor : Option Text) (entries : List Text) : List Text :=
  logLinesFrom noColor 1 entries

end SyntaxReport.Console
