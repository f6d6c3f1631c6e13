import Mathlib.Data.List.TakeWhile
import Mathlib.Tactic.SplitIfs
import SyntaxReport.Proofs.Text.Visible
import SyntaxReport.Report.Store

/-!
# What can be encoded

The encodings of Unicode have every character, the others their first 128 or 256. None has
surrogates. A string can be encoded if and only if the encoding has all of its code points; there is
no other failure.

Results:
* `Encoding.encode_eq_ok_iff`: which strings can be encoded.
* `encodePoints_eq_ok_iff`, `exists_encodePoints_iff`: the same for an encoding that is asked for by
  name.
* `exists_encodePoints_of_digits`: other digits do no harm, in any codec.
-/

namespace SyntaxReport

namespace Encoding

/-- The encoding has the code point. -/
def Has : Encoding → CodePoint → Prop
  | ascii, point => point.toNat ≤ 127
  | latin1, point => point.toNat ≤ 255
  | utf8, point | utf8Marked, point | utf16, point | utf16Little, point | utf16Big, point =>
    ∃ c, point = .char c

theorem has_iff {encoding : Encoding} {point : CodePoint} :
    encoding.has point = true ↔ encoding.Has point := by
  cases encoding <;> cases point <;> simp [has, Has, CodePoint.char?]

/-- What an encoding has are characters. -/
theorem Has.exists_char {encoding : Encoding} {point : CodePoint} (h : encoding.Has point) :
    ∃ c, point = .char c := by
  cases point with
  | char c => exact ⟨c, rfl⟩
  | surrogate number =>
    cases encoding with
    | ascii | latin1 =>
      have hnumber : CodePoint.firstSurrogate + number.val ≤ _ := h
      unfold CodePoint.firstSurrogate at hnumber
      omega
    | utf8 | utf8Marked | utf16 | utf16Little | utf16Big => exact h

/-- So a string of them is a text. -/
theorem eq_points_of_has {encoding : Encoding} {points : Points}
    (h : ∀ point ∈ points, encoding.Has point) : points = points.characters.points := by
  induction points with
  | nil => rfl
  | cons point rest ih =>
    obtain ⟨hpoint, hrest⟩ := List.forall_mem_cons.mp h
    obtain ⟨c, rfl⟩ := hpoint.exists_char
    exact congrArg (CodePoint.char c :: ·) (ih hrest)

theorem encodeError?_eq_none_iff {encoding : Encoding} {points : Points} :
    encoding.encodeError? points = none ↔ ∀ point ∈ points, encoding.Has point := by
  have hall : points.dropWhile encoding.has = [] ↔ ∀ point ∈ points, encoding.Has point := by
    simp only [List.dropWhile_eq_nil_iff, has_iff]
  rw [← hall, encodeError?]
  cases points.dropWhile encoding.has <;> simp

/-- A string can be encoded if and only if the encoding has all of its code points. -/
theorem encode_eq_ok_iff {encoding : Encoding} {points : Points} {bytes : Bytes} :
    encoding.encode points = .ok bytes ↔
      (∀ point ∈ points, encoding.Has point) ∧ bytes = encoding.bytes points.characters := by
  rw [← encodeError?_eq_none_iff, encode]
  cases encoding.encodeError? points <;> simp [eq_comm]

/-- Every encoding has all digits. -/
theorem has_anyDigit_iff {encoding : Encoding} {point : CodePoint} :
    encoding.Has point.anyDigit ↔ encoding.Has point := by
  cases point with
  | surrogate number => exact Iff.rfl
  | char c =>
    unfold CodePoint.anyDigit
    dsimp only
    split_ifs with hdigit
    · rw [Char.isDigit_iff_toNat] at hdigit
      have hnine : c.toNat ≤ 57 := hdigit.2
      cases encoding with
      | ascii => exact iff_of_true (show '0'.toNat ≤ 127 by decide) (Nat.le_trans hnine (by decide))
      | latin1 => exact iff_of_true (show '0'.toNat ≤ 255 by decide) (Nat.le_trans hnine (by decide))
      | utf8 | utf8Marked | utf16 | utf16Little | utf16Big =>
        exact iff_of_true ⟨'0', rfl⟩ ⟨c, rfl⟩
    · rfl

end Encoding

variable [Codecs] {name : Text} {encoding : Encoding} {points : Points} {bytes : Bytes}

/-- Under the name of an encoding, a string is encoded by it. -/
theorem encodePoints_iff_encode (h : Encoding.ofName? name = some encoding) :
    encodePoints name points = .ok bytes ↔ encoding.encode points = .ok bytes := by
  rw [encodePoints, findCodec, h]
  dsimp only [Codec.encode]
  cases encoding.encode points <;> simp [Except.mapError]

/-- In the encoding of a name, a string is encoded as a text of characters that the encoding has. -/
theorem encodePoints_eq_ok_iff (h : Encoding.ofName? name = some encoding) :
    encodePoints name points = .ok bytes ↔
      ∃ t : Text, points = t.points ∧ (∀ c ∈ t, encoding.Has (.char c)) ∧
        bytes = encoding.bytes t := by
  rw [encodePoints_iff_encode h, Encoding.encode_eq_ok_iff]
  constructor
  · rintro ⟨hall, rfl⟩
    have htext := Encoding.eq_points_of_has hall
    refine ⟨points.characters, htext, fun c hc => hall _ ?_, rfl⟩
    rw [htext]
    exact List.mem_map_of_mem hc
  · rintro ⟨t, rfl, hall, rfl⟩
    rw [Points.characters_points]
    exact ⟨List.forall_mem_map.mpr hall, rfl⟩

/-- In the encoding of a name, too, a string can be encoded if and only if no code point is missing.
-/
theorem exists_encodePoints_iff (h : Encoding.ofName? name = some encoding) :
    (∃ bytes, encodePoints name points = .ok bytes) ↔ ∀ point ∈ points, encoding.Has point := by
  simp only [encodePoints_eq_ok_iff h]
  constructor
  · rintro ⟨_, t, rfl, hall, -⟩
    exact List.forall_mem_map.mpr hall
  · intro hall
    have htext := Encoding.eq_points_of_has hall
    refine ⟨_, points.characters, htext, fun c hc => hall _ ?_, rfl⟩
    rw [htext]
    exact List.mem_map_of_mem hc

/-! ## Digits -/

omit [Codecs] in
/-- All numbers with the same count of digits differ in their digits only. -/
theorem anyDigit_fixedDigits (width n : Nat) :
    (Text.fixedDigits 10 width n).points.map CodePoint.anyDigit =
      List.replicate width (.char '0') := by
  have hdigit : ∀ digit < 10, (CodePoint.char (Nat.digitChar digit)).anyDigit = .char '0' := by
    decide
  induction width generalizing n with
  | zero => rfl
  | succ width ih =>
    have hlast := hdigit (n % 10) (Nat.mod_lt n (by decide))
    have hmore := ih (n / 10)
    rw [Text.points, List.map_map] at hmore ⊢
    rw [Text.fixedDigits, List.map_append, hmore, List.replicate_succ']
    exact congrArg (_ ++ [·]) hlast

omit [Codecs] in
/-- So do all time stamps. -/
theorem Calendar.DateTime.anyDigit_stamp (a b : DateTime) :
    a.stamp.points.map CodePoint.anyDigit = b.stamp.points.map CodePoint.anyDigit := by
  have hnumber (width m n : Nat) := (anyDigit_fixedDigits width m).trans
    (anyDigit_fixedDigits width n).symm
  unfold stamp
  simp only [Text.points, List.map_append, List.map_cons] at hnumber ⊢
  simp only [hnumber _ _ 0]

/-- A string can be encoded if another one can that differs in its digits only, in the encodings of
this library and by the codecs of the system. -/
theorem exists_encodePoints_of_digits {other : Points}
    (h : points.map CodePoint.anyDigit = other.map CodePoint.anyDigit)
    (hbytes : encodePoints name points = .ok bytes) :
    ∃ more, encodePoints name other = .ok more := by
  cases hname : Encoding.ofName? name with
  | some encoding =>
    rw [exists_encodePoints_iff hname]
    have hall := (exists_encodePoints_iff hname).mp ⟨bytes, hbytes⟩
    intro point hpoint
    obtain ⟨before, hbefore, hsame⟩ := List.mem_map.mp (h ▸ List.mem_map_of_mem hpoint)
    rw [← Encoding.has_anyDigit_iff, ← hsame, Encoding.has_anyDigit_iff]
    exact hall before hbefore
  | none =>
    unfold encodePoints findCodec at hbytes ⊢
    rw [hname] at hbytes ⊢
    cases hfound : Codecs.find name with
    | nothing | notText =>
      rw [hfound] at hbytes
      cases hbytes
    | codec codec =>
      rw [hfound] at hbytes
      dsimp only [Codec.encode] at hbytes ⊢
      cases hencode : codec.encode points with
      | error failure =>
        rw [hencode] at hbytes
        cases hbytes
      | ok bytes =>
        obtain ⟨more, hmore⟩ := codec.encode_digits points other h ⟨bytes, hencode⟩
        rw [hmore]
        exact ⟨more, rfl⟩

end SyntaxReport
