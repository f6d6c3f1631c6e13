import SyntaxReport.Text.Basic
import SyntaxReport.Text.Printable

/-!
# Visible texts

A text is visible if all of its characters are printable: it has no control characters, and stays on
one line.

Results:
* `visible_append`, `visible_joinWith`: a text is visible if its parts are.
* `visible_decimal`, `visible_fixedDigits`: numbers are visible.
-/

namespace SyntaxReport.Text

/-- A text of printable characters. -/
def Visible (t : Text) : Prop := ∀ c ∈ t, isPrintable c

/-- The characters are looked at one by one. -/
instance (t : Text) : Decidable t.Visible :=
  decidable_of_iff (t.all isPrintable) (by simp [Visible])

variable {s t : Text} {c : Char}

@[simp] theorem visible_nil : Visible [] := List.forall_mem_nil _

@[simp] theorem visible_cons : Visible (c :: t) ↔ isPrintable c ∧ t.Visible :=
  List.forall_mem_cons

@[simp] theorem visible_append : Visible (s ++ t) ↔ s.Visible ∧ t.Visible :=
  List.forall_mem_append

/-- A visible text has no other characters. -/
theorem Visible.not_mem (h : t.Visible) (hc : isPrintable c = false) : c ∉ t :=
  fun hmem => absurd (h c hmem) (ne_true_of_eq_false hc)

/-- Between the space and the last character of ASCII, which is a control character, every character
is printable. -/
theorem isPrintable_of_ascii (hlow : 0x20 ≤ c.toNat) (hhigh : c.toNat < 0x7F) : isPrintable c := by
  rw [isPrintable, if_pos hhigh]
  exact decide_eq_true hlow

theorem visible_joinWith {separator : Text} (hseparator : separator.Visible) {all : List Text}
    (h : ∀ piece ∈ all, piece.Visible) : (joinWith separator all).Visible := by
  induction all with
  | nil => exact visible_nil
  | cons piece more ih =>
    obtain ⟨hpiece, hmore⟩ := List.forall_mem_cons.mp h
    cases more with
    | nil => exact hpiece
    | cons next others =>
      exact visible_append.mpr ⟨visible_append.mpr ⟨hpiece, hseparator⟩, ih hmore⟩

/-! ## Numbers -/

/-- A digit is one of these characters; the asterisk stands for none. -/
theorem digitChar_mem (n : Nat) : Nat.digitChar n ∈ "0123456789abcdef*".toList := by
  by_cases h : n < 16
  · revert n
    decide
  · have hnone : Nat.digitChar n = '*' := by
      unfold Nat.digitChar
      repeat rw [if_neg (by omega)]
    rw [hnone]
    decide

/-- Whatever holds of these characters holds of the digits of a number. -/
theorem forall_mem_fixedDigits {p : Char → Prop} (h : ∀ c ∈ "0123456789abcdef*".toList, p c)
    (base width n : Nat) : ∀ c ∈ fixedDigits base width n, p c := by
  induction width generalizing n with
  | zero => exact List.forall_mem_nil _
  | succ width ih =>
    rw [fixedDigits, List.forall_mem_append]
    exact ⟨ih _, List.forall_mem_singleton.mpr (h _ (digitChar_mem _))⟩

@[simp] theorem visible_fixedDigits (base width n : Nat) : (fixedDigits base width n).Visible :=
  forall_mem_fixedDigits (show Visible _ by decide) base width n

@[simp] theorem visible_decimal (n : Nat) : (decimal n).Visible := by
  intro c hc
  have hdigit := Nat.isDigit_of_mem_toDigits (by decide) (by decide) hc
  rw [Char.isDigit_iff_toNat] at hdigit
  exact isPrintable_of_ascii (Nat.le_trans (by decide) hdigit.1)
    (Nat.lt_of_le_of_lt hdigit.2 (by decide))

@[simp] theorem visible_hexByte (b : UInt8) : (hexByte b).Visible := visible_fixedDigits 16 2 _

end SyntaxReport.Text
