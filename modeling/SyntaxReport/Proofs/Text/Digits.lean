import SyntaxReport.Text.Basic

/-!
# Numbers with a fixed count of digits

A number that has no more digits than there is room for is written with leading zeros. Its digits
are read back as the number, and texts that start with such numbers are ordered by the numbers
first.

Results:
* `isNumeral_fixedDigits`: the digits of a number, their count and their value.
* `fixedDigits_append_eq_iff`: a text that starts with a number of known width tells the number.
* `fixedDigits_append_lt_iff`: the order of texts that start with numbers of the same width.
-/

namespace SyntaxReport.Text

/-- A text of `width` decimal digits that are read as the number `n`. -/
structure IsNumeral (width n : Nat) (digits : Text) : Prop where
  length_eq : digits.length = width
  isDigit : ∀ c ∈ digits, c.isDigit
  value_eq : Nat.ofDigitChars 10 digits 0 = n

/-- A number is written by its decimal digits, as many as there is room for. -/
theorem isNumeral_fixedDigits {width n : Nat} (h : n < Nat.pow 10 width) :
    IsNumeral width n (fixedDigits 10 width n) := by
  refine ⟨length_fixedDigits 10 width n, ?_, ?_⟩
  · clear h
    induction width generalizing n with
    | zero => exact List.forall_mem_nil _
    | succ width ih =>
      rw [fixedDigits, List.forall_mem_append, List.forall_mem_singleton]
      refine ⟨ih, ?_⟩
      rw [Nat.isDigit_digitChar]
      exact decide_eq_true (Nat.mod_lt n (by decide))
  · induction width generalizing n with
    | zero =>
      obtain rfl : n = 0 := Nat.lt_one_iff.mp h
      rfl
    | succ width ih =>
      change n < Nat.pow 10 width * 10 at h
      have hdigit : (Nat.digitChar (n % 10)).toNat = 48 + n % 10 :=
        Nat.toNat_digitChar_of_lt_ten (Nat.mod_lt n (by decide))
      rw [fixedDigits, Nat.ofDigitChars_append, ih (by omega), Nat.ofDigitChars_cons, hdigit,
        Nat.ofDigitChars_nil]
      show 10 * (n / 10) + (48 + n % 10 - 48) = n
      omega

/-- Digits are told apart by their values. -/
theorem digitChar_eq_iff {m n : Nat} (hm : m < 16) (hn : n < 16) :
    Nat.digitChar m = Nat.digitChar n ↔ m = n := by
  have hvalues : ∀ m < 16, ∀ n < 16, Nat.digitChar m = Nat.digitChar n → m = n := by decide
  exact ⟨hvalues m hm n hn, congrArg Nat.digitChar⟩

/-- Up to the base sixteen, a number is told by its digits if there is room for it. -/
theorem fixedDigits_inj {base width m n : Nat} (hbase : base ≤ 16) (hm : m < Nat.pow base width)
    (hn : n < Nat.pow base width) (h : fixedDigits base width m = fixedDigits base width n) :
    m = n := by
  induction width generalizing m n with
  | zero =>
    obtain rfl : m = 0 := Nat.lt_one_iff.mp hm
    obtain rfl : n = 0 := Nat.lt_one_iff.mp hn
    rfl
  | succ width ih =>
    change m < Nat.pow base width * base at hm
    change n < Nat.pow base width * base at hn
    have hpos : 0 < base := Nat.pos_of_lt_mul_left hm
    have hdigit (k : Nat) : k % base < 16 := Nat.lt_of_lt_of_le (Nat.mod_lt k hpos) hbase
    rw [fixedDigits, fixedDigits] at h
    obtain ⟨hfirst, hlast⟩ := List.append_inj' h rfl
    have hdiv : m / base = n / base :=
      ih ((Nat.div_lt_iff_lt_mul hpos).mpr hm) ((Nat.div_lt_iff_lt_mul hpos).mpr hn) hfirst
    have hmod : m % base = n % base :=
      (digitChar_eq_iff (hdigit m) (hdigit n)).mp (List.cons.inj hlast).1
    rw [← Nat.div_add_mod m base, hdiv, hmod, Nat.div_add_mod]

/-- Texts that start with numbers of the same width are equal if the numbers are, and what follows.
-/
theorem fixedDigits_append_eq_iff {base width m n : Nat} (hbase : base ≤ 16)
    (hm : m < Nat.pow base width) (hn : n < Nat.pow base width) (s t : Text) :
    fixedDigits base width m ++ s = fixedDigits base width n ++ t ↔ m = n ∧ s = t := by
  constructor
  · intro h
    have hlength : (fixedDigits base width m).length = (fixedDigits base width n).length := by
      rw [length_fixedDigits, length_fixedDigits]
    obtain ⟨hdigits, hrest⟩ := List.append_inj h hlength
    exact ⟨fixedDigits_inj hbase hm hn hdigits, hrest⟩
  · rintro ⟨rfl, rfl⟩
    rfl

/-- Digits are ordered by their values. -/
theorem digitChar_lt_iff {m n : Nat} (hm : m < 10) (hn : n < 10) :
    Nat.digitChar m < Nat.digitChar n ↔ m < n := by
  show (Nat.digitChar m).toNat < (Nat.digitChar n).toNat ↔ m < n
  rw [Nat.toNat_digitChar_of_lt_ten hm, Nat.toNat_digitChar_of_lt_ten hn]
  omega

/-- Texts that start with numbers of the same width are ordered by the numbers, and by what follows
if these are equal. -/
theorem fixedDigits_append_lt_iff {width m n : Nat} (hm : m < Nat.pow 10 width)
    (hn : n < Nat.pow 10 width) (s t : Text) :
    fixedDigits 10 width m ++ s < fixedDigits 10 width n ++ t ↔ m < n ∨ m = n ∧ s < t := by
  induction width generalizing m n s t with
  | zero =>
    obtain rfl : m = 0 := Nat.lt_one_iff.mp hm
    obtain rfl : n = 0 := Nat.lt_one_iff.mp hn
    simp [fixedDigits]
  | succ width ih =>
    change m < Nat.pow 10 width * 10 at hm
    change n < Nat.pow 10 width * 10 at hn
    have hm' : m % 10 < 10 := Nat.mod_lt m (by decide)
    have hn' : n % 10 < 10 := Nat.mod_lt n (by decide)
    rw [fixedDigits, fixedDigits, List.append_assoc, List.append_assoc, ih (by omega) (by omega),
      List.singleton_append, List.singleton_append, List.cons_lt_cons_iff,
      digitChar_lt_iff hm' hn', digitChar_eq_iff (by omega) (by omega)]
    -- the numbers are compared by their first digits, and then by the last one
    have hlt : m < n ↔ m / 10 < n / 10 ∨ m / 10 = n / 10 ∧ m % 10 < n % 10 := by omega
    have heq : m = n ↔ m / 10 = n / 10 ∧ m % 10 = n % 10 := by omega
    rw [hlt, heq]
    grind

end SyntaxReport.Text
