import SyntaxReport.Text.Basic
import SyntaxReport.Text.DecimalDigit

/-!
# Numerals

A whole number is written with decimal digits of any script, a sign in front if wanted, single
underscores between digits, and blanks on either side. At most `digitLimit` digits are read.
-/

namespace SyntaxReport.Text

/-- The most digits a numeral may have. -/
def digitLimit : Nat := 4300

/-- The characters that may surround a numeral. -/
def isBlank (c : Char) : Bool :=
  let n := c.toNat
  decide (0x09 ≤ n ∧ n ≤ 0x0D) || n == 0x20 || n == 0x85 || n == 0xA0 || n == 0x1680 ||
    decide (0x2000 ≤ n ∧ n ≤ 0x200A) || n == 0x2028 || n == 0x2029 || n == 0x202F || n == 0x205F ||
    n == 0x3000

/-- The text without the blanks at its ends. -/
def trimBlanks (t : Text) : Text :=
  ((t.dropWhile isBlank).reverse.dropWhile isBlank).reverse

/-- Read the digits of a numeral after `count` digits of the given value; an underscore must stand
between two digits, which `afterDigit` keeps track of. -/
def readDigits? (afterDigit : Bool) (value count : Nat) : Text → Option Nat
  | [] => if afterDigit && decide (count ≤ digitLimit) then some value else none
  | c :: rest =>
    match digitValue? c with
    | some digit => readDigits? true (10 * value + digit) (count + 1) rest
    | none => if c = '_' && afterDigit then readDigits? false value count rest else none

/-- The whole number that the text writes, if it writes one. -/
def readInt? (t : Text) : Option Int :=
  match trimBlanks t with
  | '+' :: digits => (readDigits? false 0 0 digits).map Int.ofNat
  | '-' :: digits => (readDigits? false 0 0 digits).map fun n => -Int.ofNat n
  | digits => (readDigits? false 0 0 digits).map Int.ofNat

end SyntaxReport.Text
