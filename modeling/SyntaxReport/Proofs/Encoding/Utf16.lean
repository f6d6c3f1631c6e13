import Mathlib.Tactic.SplitIfs
import SyntaxReport.Encoding.Utf16

/-!
# Reading UTF-16 back

The two bytes of a unit are read as that unit in the order in which they were written. A unit that
is no surrogate is a character, and so is a surrogate pair.

Results:
* `decodeFrom_encodeChar`: the bytes of one character, whatever comes behind.
* `decode_encode`, `decodeMarked_encode`: the bytes of a text, in a known order and behind a byte
  order mark.
-/

namespace SyntaxReport.Encoding.Utf16

/-! ## Units -/

/-- The bytes of a unit are read as that unit. -/
theorem unit_bytes (order : Order) {unit : Nat} (h : unit < 0x10000) :
    ∃ a b, order.bytes unit = [a, b] ∧ order.unit a b = unit := by
  have hlow : (UInt8.ofNat (unit % 0x100)).toNat = unit % 0x100 :=
    UInt8.toNat_ofNat_of_lt' (Nat.mod_lt _ (by decide))
  have hhigh : (UInt8.ofNat (unit / 0x100)).toNat = unit / 0x100 :=
    UInt8.toNat_ofNat_of_lt' (by show _ < 0x100; omega)
  cases order with
  | little =>
    refine ⟨_, _, rfl, ?_⟩
    rw [Order.unit, hlow, hhigh]
    omega
  | big =>
    refine ⟨_, _, rfl, ?_⟩
    rw [Order.unit, hlow, hhigh]
    omega

/-- A unit that is no surrogate is a character. -/
theorem decodeFrom_single (order : Order) {unit : Nat} (hunit : unit < 0x10000)
    (hhigh : isHigh unit = false) (hlow : isLow unit = false) (position : Nat) (rest : Bytes) :
    decodeFrom order position (order.bytes unit ++ rest) =
      (decodeFrom order (position + 2) rest).map (Char.ofNat unit :: ·) := by
  obtain ⟨a, b, hbytes, hread⟩ := unit_bytes order hunit
  rw [hbytes, List.cons_append, List.cons_append, List.nil_append, decodeFrom.eq_def]
  simp only [hread, hhigh, hlow, Bool.false_eq_true, if_false]

/-- A surrogate pair is a character. -/
theorem decodeFrom_pair (order : Order) {high low : Nat} (hhigh : isHigh high = true)
    (hlow : isLow low = true) (position : Nat) (rest : Bytes) :
    decodeFrom order position (order.bytes high ++ order.bytes low ++ rest) =
      (decodeFrom order (position + 4) rest).map (Char.ofNat (pairCode high low) :: ·) := by
  simp only [isHigh, isLow, decide_eq_true_eq] at hhigh hlow
  have hhighUnit : high < 0x10000 := by omega
  have hlowUnit : low < 0x10000 := by omega
  obtain ⟨a, b, hbytes, hread⟩ := unit_bytes order hhighUnit
  obtain ⟨c, d, hbytes', hread'⟩ := unit_bytes order hlowUnit
  rw [hbytes, hbytes']
  simp [decodeFrom, hread, hread', isHigh, isLow, hhigh, hlow]

/-! ## One character -/

/-- A surrogate pair carries the code point beyond FFFF. -/
theorem pairCode_units {n : Nat} (h : 0x10000 ≤ n) :
    pairCode (0xD800 + (n - 0x10000) / 0x400) (0xDC00 + (n - 0x10000) % 0x400) = n := by
  unfold pairCode
  omega

/-- The bytes of a character are read as that character. -/
theorem decodeFrom_encodeChar (order : Order) (c : Char) (position : Nat) (rest : Bytes) :
    ∃ behind, decodeFrom order position ((units c).flatMap order.bytes ++ rest) =
      (decodeFrom order behind rest).map (c :: ·) := by
  have hvalid : c.toNat < 0xD800 ∨ 0xDFFF < c.toNat ∧ c.toNat < 0x110000 := c.valid
  unfold units
  split_ifs with hone
  · have hhigh : isHigh c.toNat = false := by
      rw [isHigh, decide_eq_false_iff_not]
      omega
    have hlow : isLow c.toNat = false := by
      rw [isLow, decide_eq_false_iff_not]
      omega
    refine ⟨position + 2, ?_⟩
    rw [List.flatMap_singleton, decodeFrom_single order hone hhigh hlow, Char.ofNat_toNat]
  · have hhigh : isHigh (0xD800 + (c.toNat - 0x10000) / 0x400) = true := by
      rw [isHigh, decide_eq_true_eq]
      omega
    have hlow : isLow (0xDC00 + (c.toNat - 0x10000) % 0x400) = true := by
      rw [isLow, decide_eq_true_eq]
      omega
    refine ⟨position + 4, ?_⟩
    rw [List.flatMap_cons, List.flatMap_singleton, decodeFrom_pair order hhigh hlow,
      pairCode_units (by omega), Char.ofNat_toNat]

/-! ## Texts -/

theorem decodeFrom_encode (order : Order) (t : Text) (position : Nat) :
    decodeFrom order position (encode order t) = .ok t := by
  induction t generalizing position with
  | nil => simp [encode, decodeFrom]
  | cons c rest ih =>
    rw [encode, List.flatMap_cons, ← encode]
    obtain ⟨behind, hchar⟩ := decodeFrom_encodeChar order c position (encode order rest)
    rw [hchar, ih]
    rfl

/-- The bytes of a text are read as that text. -/
theorem decode_encode (order : Order) (t : Text) : decode order (encode order t) = .ok t :=
  decodeFrom_encode order t 0

/-- A byte order mark in front of the bytes is dropped, and only one. -/
theorem decodeMarked_encode (t : Text) :
    decodeMarked (Order.little.bytes mark ++ encode .little t) = .ok t := by
  have hmark : (Order.little.bytes mark).isPrefixOf (Order.little.bytes mark ++ encode .little t) :=
    by simp
  have hbehind : (Order.little.bytes mark ++ encode .little t).drop 2 = encode .little t := rfl
  rw [decodeMarked, if_pos hmark, hbehind, decodeFrom_encode]

end SyntaxReport.Encoding.Utf16
