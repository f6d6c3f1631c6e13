import Mathlib.Data.List.TakeWhile
import Mathlib.Tactic.SplitIfs
import SyntaxReport.Text.Numeral

/-!
# Numbers read back

A number written in decimal digits is read as that number, if it has no more digits than a numeral
may have, and is no numeral otherwise.

Results:
* `readDigits?_of_isDigit`: plain digits are read by their place values.
* `readInt?_decimal`: a number in decimal digits is read back up to the limit.
-/

namespace SyntaxReport.Text

/-- The plain digits come first in the table of all scripts. -/
theorem digitValue?_of_isDigit {c : Char} (h : c.isDigit) :
    digitValue? c = some (c.toNat - '0'.toNat) := by
  have hplain : 0x30 ≤ c.toNat ∧ c.toNat < 0x30 + 10 := by
    have hrange : 0x30 ≤ c.toNat ∧ c.toNat ≤ 0x39 := Char.isDigit_iff_toNat.mp h
    omega
  have hfirst : zeroDigits.find? (fun first => decide (first ≤ c.toNat ∧ c.toNat < first + 10)) =
      some 0x30 := List.find?_cons_of_pos (decide_eq_true hplain)
  rw [digitValue?, hfirst]
  rfl

/-- Plain digits are read by their place values, as long as there are not too many. -/
theorem readDigits?_of_isDigit {digits : Text} (h : ∀ c ∈ digits, c.isDigit) (afterDigit : Bool)
    (value count : Nat) :
    readDigits? afterDigit value count digits =
      if (afterDigit ∨ digits ≠ []) ∧ count + digits.length ≤ digitLimit then
        some (Nat.ofDigitChars 10 digits value)
      else none := by
  induction digits generalizing afterDigit value count with
  | nil => simp [readDigits?]
  | cons c rest ih =>
    obtain ⟨hc, hrest⟩ := List.forall_mem_cons.mp h
    have hlength : count + 1 + rest.length = count + (c :: rest).length := by
      rw [List.length_cons]
      omega
    rw [readDigits?, digitValue?_of_isDigit hc]
    simp only [ih hrest, hlength, true_or, true_and, Nat.ofDigitChars_cons, ne_eq, reduceCtorEq,
      not_false_eq_true, or_true]

theorem not_isBlank_of_isDigit {c : Char} (h : c.isDigit) : isBlank c = false := by
  have hrange : 0x30 ≤ c.toNat ∧ c.toNat ≤ 0x39 := Char.isDigit_iff_toNat.mp h
  simp only [isBlank, Bool.or_eq_false_iff, decide_eq_false_iff_not, beq_eq_false_iff_ne]
  omega

/-- A text without blanks at its ends keeps both of them. -/
theorem trimBlanks_eq_self {t : Text} (h : ∀ c ∈ t, isBlank c = false) : trimBlanks t = t := by
  have hdrop {s : Text} (hs : ∀ c ∈ s, isBlank c = false) : s.dropWhile isBlank = s :=
    List.dropWhile_eq_self_iff.mpr fun _ => by simp [hs _ (List.getElem_mem _)]
  have hreverse : ∀ c ∈ t.reverse, isBlank c = false := fun c hc => h c (List.mem_reverse.mp hc)
  rw [trimBlanks, hdrop h, hdrop hreverse, List.reverse_reverse]

theorem ofDigitChars_decimal (n : Nat) : Nat.ofDigitChars 10 (decimal n) 0 = n :=
  Nat.ofDigitChars_ten_toDigits

/-- Different numbers have different digits. -/
theorem decimal_injective : Function.Injective decimal := fun m n h => by
  rw [← ofDigitChars_decimal m, h, ofDigitChars_decimal]

/-- A power of ten has more digits than its exponent says. -/
theorem lt_length_decimal_pow (k : Nat) : k < (decimal (Nat.pow 10 k)).length := by
  cases k with
  | zero => exact Nat.length_toDigits_pos
  | succ k =>
    rw [← Nat.not_le, decimal, Nat.length_toDigits_le_iff (by decide) (Nat.succ_pos k)]
    exact Nat.lt_irrefl _

/-- A number in decimal digits is read back, unless it has too many digits. -/
theorem readInt?_decimal (n : Nat) :
    readInt? (decimal n) = if (decimal n).length ≤ digitLimit then some (n : Int) else none := by
  have hdigits : ∀ c ∈ decimal n, c.isDigit := fun c hc =>
    Nat.isDigit_of_mem_toDigits (by decide) (by decide) hc
  have htrim : trimBlanks (decimal n) = decimal n :=
    trimBlanks_eq_self fun c hc => not_isBlank_of_isDigit (hdigits c hc)
  have hne : decimal n ≠ [] := Nat.toDigits_ne_nil
  have hread : readDigits? false 0 0 (decimal n) =
      if (decimal n).length ≤ digitLimit then some n else none := by
    rw [readDigits?_of_isDigit hdigits, ofDigitChars_decimal]
    simp [hne]
  rw [readInt?, htrim]
  split
  · next heq => exact absurd (hdigits '+' (heq ▸ List.mem_cons_self ..)) (by decide)
  · next heq => exact absurd (hdigits '-' (heq ▸ List.mem_cons_self ..)) (by decide)
  · rw [hread]
    split_ifs <;> rfl

end SyntaxReport.Text
