import Mathlib.Tactic.SplitIfs
import SyntaxReport.Encoding.Utf8

/-!
# Reading UTF-8 back

The bytes of a character are read as that character: the first byte announces how many follow, each
of them lies within the bounds that the first allows, and the bits that they carry make up the code
point again. Behind the character, decoding goes on as if it started there.

Results:
* `decodeFrom_encodeChar`: the bytes of one character, whatever comes behind.
* `decode_encode`, `decodeMarked_encode`: the bytes of a text, without or with a byte order mark.
-/

namespace SyntaxReport.Encoding.Utf8

/-! ## One byte -/

theorem toNat_ofNat {n : Nat} (h : n < 0x100) : (UInt8.ofNat n).toNat = n :=
  UInt8.toNat_ofNat_of_lt' h

/-- A first byte that is a character of its own. -/
theorem decodeFrom_single {b : UInt8} {value : Nat} (h : lead? b.toNat = some (value, []))
    (position : Nat) (rest : Bytes) :
    decodeFrom position none (b :: rest) =
      (decodeFrom (position + 1) none rest).map (Char.ofNat value :: ·) := by
  rw [decodeFrom, h]

/-- A first byte that others must follow. -/
theorem decodeFrom_lead {b : UInt8} {value : Nat} {next : Bounds} {later : List Bounds}
    (h : lead? b.toNat = some (value, next :: later)) (position : Nat) (rest : Bytes) :
    decodeFrom position none (b :: rest) =
      decodeFrom (position + 1) (some ⟨b, position, value, next, later⟩) rest := by
  rw [decodeFrom, h]

/-- A byte within its bounds, with more to come. -/
theorem decodeFrom_middle {p : Pending} {b : UInt8} {next : Bounds} {later : List Bounds}
    (hbounds : p.next.1 ≤ b.toNat ∧ b.toNat ≤ p.next.2) (hlater : p.later = next :: later)
    (position : Nat) (rest : Bytes) :
    decodeFrom position (some p) (b :: rest) =
      decodeFrom (position + 1)
        (some { p with value := p.value * 0x40 + b.toNat % 0x40, next, later }) rest := by
  rw [decodeFrom, if_pos hbounds, hlater]

/-- The last byte of a character, within its bounds. -/
theorem decodeFrom_last {p : Pending} {b : UInt8}
    (hbounds : p.next.1 ≤ b.toNat ∧ b.toNat ≤ p.next.2) (hlater : p.later = [])
    (position : Nat) (rest : Bytes) :
    decodeFrom position (some p) (b :: rest) =
      (decodeFrom (position + 1) none rest).map
        (Char.ofNat (p.value * 0x40 + b.toNat % 0x40) :: ·) := by
  rw [decodeFrom, if_pos hbounds, hlater]

/-! ## First bytes -/

/-- The bounds of the second of three bytes: no overlong forms behind E0, no surrogates behind
ED. -/
def secondOfThree (top : Nat) : Bounds :=
  if top = 0 then (0xA0, 0xBF) else if top = 0xD then (0x80, 0x9F) else tail

/-- The bounds of the second of four bytes: no overlong forms behind F0, nothing beyond the last
code point behind F4. -/
def secondOfFour (top : Nat) : Bounds :=
  if top = 0 then (0x90, 0xBF) else if top = 4 then (0x80, 0x8F) else tail

theorem lead?_one {n : Nat} (h : n < 0x80) : lead? n = some (n, []) := by
  rw [lead?, if_pos h]

theorem lead?_two {top : Nat} (hlow : 2 ≤ top) (hhigh : top < 0x20) :
    lead? (0xC0 + top) = some (top, [tail]) := by
  rw [lead?, if_neg (by omega), if_neg (by omega), if_pos (by omega), Nat.add_sub_cancel_left]

theorem lead?_three : ∀ top < 0x10, lead? (0xE0 + top) = some (top, [secondOfThree top, tail]) := by
  decide

theorem lead?_four :
    ∀ top < 5, lead? (0xF0 + top) = some (top, [secondOfFour top, tail, tail]) := by
  decide

/-! ## One character -/

/-- A byte behind the first one carries six bits. -/
theorem toNat_continuation (bits : Nat) :
    (UInt8.ofNat (0x80 + bits % 0x40)).toNat = 0x80 + bits % 0x40 :=
  toNat_ofNat (by omega)

theorem tail_admits (bits : Nat) :
    tail.1 ≤ (UInt8.ofNat (0x80 + bits % 0x40)).toNat ∧
      (UInt8.ofNat (0x80 + bits % 0x40)).toNat ≤ tail.2 := by
  rw [toNat_continuation, tail]
  omega

/-- The second of three bytes lies within its bounds: the code point needs three bytes, and is no
surrogate. -/
theorem secondOfThree_admits {n : Nat} (hlow : 0x800 ≤ n) (hhigh : n < 0x10000)
    (hvalid : n.isValidChar) :
    (secondOfThree (n / 0x1000)).1 ≤ 0x80 + n / 0x40 % 0x40 ∧
      0x80 + n / 0x40 % 0x40 ≤ (secondOfThree (n / 0x1000)).2 := by
  unfold Nat.isValidChar at hvalid
  unfold secondOfThree tail
  split_ifs with hzero hsurrogates
  · dsimp only
    omega
  · dsimp only
    omega
  · dsimp only
    omega

/-- The second of four bytes lies within its bounds: the code point needs four bytes, and there is
such a code point. -/
theorem secondOfFour_admits {n : Nat} (hlow : 0x10000 ≤ n) (hhigh : n < 0x110000) :
    (secondOfFour (n / 0x40000)).1 ≤ 0x80 + n / 0x1000 % 0x40 ∧
      0x80 + n / 0x1000 % 0x40 ≤ (secondOfFour (n / 0x40000)).2 := by
  unfold secondOfFour tail
  split_ifs with hzero hlast
  · dsimp only
    omega
  · dsimp only
    omega
  · dsimp only
    omega

/-- The bytes of a code point are read as its character. -/
theorem decodeFrom_encodeCode {n : Nat} (hvalid : n.isValidChar) (position : Nat) (rest : Bytes) :
    decodeFrom position none (encodeCode n ++ rest) =
      (decodeFrom (position + (encodeCode n).length) none rest).map (Char.ofNat n :: ·) := by
  unfold encodeCode
  split_ifs with hone htwo hthree
  · have hlead : lead? (UInt8.ofNat n).toNat = some (n, []) := by
      rw [toNat_ofNat (by omega), lead?_one hone]
    exact decodeFrom_single hlead position rest
  · have hlead : lead? (UInt8.ofNat (0xC0 + n / 0x40)).toNat = some (n / 0x40, [tail]) := by
      rw [toNat_ofNat (by omega), lead?_two (by omega) (by omega)]
    have hvalue : n / 0x40 * 0x40 + (0x80 + n % 0x40) % 0x40 = n := by omega
    simp only [List.cons_append, List.nil_append, List.length_cons, List.length_nil]
    rw [decodeFrom_lead hlead, decodeFrom_last (tail_admits n) rfl, toNat_continuation, hvalue]
  · have hlead : lead? (UInt8.ofNat (0xE0 + n / 0x1000)).toNat =
        some (n / 0x1000, [secondOfThree (n / 0x1000), tail]) := by
      rw [toNat_ofNat (by omega), lead?_three _ (by omega)]
    have hsecond := secondOfThree_admits (by omega) hthree hvalid
    rw [← toNat_continuation] at hsecond
    have hvalue : (n / 0x1000 * 0x40 + (0x80 + n / 0x40 % 0x40) % 0x40) * 0x40 +
        (0x80 + n % 0x40) % 0x40 = n := by omega
    simp only [List.cons_append, List.nil_append, List.length_cons, List.length_nil]
    rw [decodeFrom_lead hlead, decodeFrom_middle hsecond rfl, decodeFrom_last (tail_admits n) rfl,
      toNat_continuation, toNat_continuation, hvalue]
  · have hlast : n < 0x110000 := by
      unfold Nat.isValidChar at hvalid
      omega
    have hlead : lead? (UInt8.ofNat (0xF0 + n / 0x40000)).toNat =
        some (n / 0x40000, [secondOfFour (n / 0x40000), tail, tail]) := by
      rw [toNat_ofNat (by omega), lead?_four _ (by omega)]
    have hsecond := secondOfFour_admits (by omega) hlast
    rw [← toNat_continuation] at hsecond
    have hvalue : ((n / 0x40000 * 0x40 + (0x80 + n / 0x1000 % 0x40) % 0x40) * 0x40 +
        (0x80 + n / 0x40 % 0x40) % 0x40) * 0x40 + (0x80 + n % 0x40) % 0x40 = n := by omega
    simp only [List.cons_append, List.nil_append, List.length_cons, List.length_nil]
    rw [decodeFrom_lead hlead, decodeFrom_middle hsecond rfl,
      decodeFrom_middle (tail_admits (n / 0x40)) rfl, decodeFrom_last (tail_admits n) rfl,
      toNat_continuation, toNat_continuation, toNat_continuation, hvalue]

/-- The bytes of a character are read as that character. -/
theorem decodeFrom_encodeChar (c : Char) (position : Nat) (rest : Bytes) :
    decodeFrom position none (encodeChar c ++ rest) =
      (decodeFrom (position + (encodeChar c).length) none rest).map (c :: ·) := by
  have hvalid : c.toNat.isValidChar := c.valid
  rw [encodeChar, decodeFrom_encodeCode hvalid, Char.ofNat_toNat]

/-! ## Texts -/

theorem decodeFrom_encode (t : Text) (position : Nat) :
    decodeFrom position none (encode t) = .ok t := by
  induction t generalizing position with
  | nil => rfl
  | cons c rest ih =>
    rw [encode, List.flatMap_cons, decodeFrom_encodeChar, ← encode, ih]
    rfl

/-- The bytes of a text are read as that text. -/
theorem decode_encode (t : Text) : decode (encode t) = .ok t := decodeFrom_encode t 0

/-- A byte order mark in front of the bytes is dropped, and only one. -/
theorem decodeMarked_encode (t : Text) : decodeMarked (mark ++ encode t) = .ok t := by
  have hmark : mark.isPrefixOf (mark ++ encode t) := by simp
  rw [decodeMarked, if_pos hmark, List.drop_left, decode_encode]

end SyntaxReport.Encoding.Utf8
