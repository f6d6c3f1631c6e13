import SyntaxReport.Text.Basic
import SyntaxReport.Text.Printable

/-!
# Quoted texts

Messages show a path or a name in quotation marks, so that it stays on one line and can be told
from its surroundings. The quotation mark is an apostrophe, or a double quotation mark for a text
that holds apostrophes and no double quotation mark. Inside, the mark in use and the backslash
stand behind a backslash, and a character that is not printable is written by its code.

* `quote` writes the quotation, `quoteOption` the word None for a missing text.
* `codeEscape` is the escape by code alone, with two, four or eight hexadecimal digits.
-/

namespace SyntaxReport.Text

/-- The single quotation mark. -/
def apostrophe : Char := '\x27'

/-- The double quotation mark. -/
def doubleMark : Char := '\x22'

/-- A code behind a backslash: two, four or eight hexadecimal digits. -/
def codeEscape (code : Nat) : Text :=
  if code < 0x100 then '\\' :: 'x' :: fixedDigits 16 2 code
  else if code < 0x10000 then '\\' :: 'u' :: fixedDigits 16 4 code
  else '\\' :: 'U' :: fixedDigits 16 8 code

/-- A character as it stands between two marks. -/
def escapeIn (mark c : Char) : Text :=
  if c = mark ∨ c = '\\' then ['\\', c]
  else if c = '\t' then ['\\', 't']
  else if c = '\n' then ['\\', 'n']
  else if c = '\r' then ['\\', 'r']
  else if isPrintable c then [c]
  else codeEscape c.toNat

/-- The mark that needs the fewest escapes, the apostrophe first. -/
def quotationMarkFor (t : Text) : Char :=
  if t.contains apostrophe && !t.contains doubleMark then doubleMark else apostrophe

/-- The quotation marks. -/
def IsMark (mark : Char) : Prop := mark = apostrophe ∨ mark = doubleMark

theorem isMark_quotationMarkFor (t : Text) : IsMark (quotationMarkFor t) := by
  unfold quotationMarkFor
  split
  · exact .inr rfl
  · exact .inl rfl

/-- The text in quotation marks, on one line and with printable characters only. -/
def quote (t : Text) : Text :=
  let mark := quotationMarkFor t
  mark :: t.flatMap (escapeIn mark) ++ [mark]

/-- A text in quotation marks, or the bare word None if there is none. -/
def quoteOption : Option Text → Text
  | none => "None".toList
  | some t => quote t

end SyntaxReport.Text
