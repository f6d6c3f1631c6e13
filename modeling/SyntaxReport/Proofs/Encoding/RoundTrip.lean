import SyntaxReport.Proofs.Encoding.Repertoire
import SyntaxReport.Proofs.Encoding.Utf16
import SyntaxReport.Proofs.Encoding.Utf8

/-!
# Texts survive being encoded

Whatever an encoding can write, it reads back: all characters in the encodings of Unicode, the first
128 or 256 characters in the others. Byte order marks that the text itself starts with survive too.

Results:
* `Encoding.decode_bytes`: decoding undoes encoding.
* `decodeBytes_of_encodePoints`: so it does for an encoding that is asked for by name.
-/

namespace SyntaxReport

namespace Encoding

namespace SingleByte

/-- A text of characters below the limit, written with one byte per character, is read back. -/
theorem decodeFrom_encode {encoding : Encoding} {limit : Nat} (hlimit : limit ≤ 0x100) {t : Text}
    (h : ∀ c ∈ t, c.toNat < limit) (position : Nat) :
    decodeFrom encoding limit position (encode t) = .ok t := by
  induction t generalizing position with
  | nil => rfl
  | cons c rest ih =>
    obtain ⟨hc, hrest⟩ := List.forall_mem_cons.mp h
    have hbyte : (UInt8.ofNat c.toNat).toNat = c.toNat :=
      UInt8.toNat_ofNat_of_lt' (Nat.lt_of_lt_of_le hc hlimit)
    show decodeFrom encoding limit position (UInt8.ofNat c.toNat :: encode rest) = _
    rw [decodeFrom, hbyte, if_pos hc, ih hrest, Char.ofNat_toNat]
    rfl

end SingleByte

/-- A text whose characters an encoding has is read back. -/
theorem decode_bytes {encoding : Encoding} {t : Text} (h : ∀ c ∈ t, encoding.Has (.char c)) :
    encoding.decode (encoding.bytes t) = .ok t := by
  cases encoding with
  | utf8 => exact Utf8.decode_encode t
  | utf8Marked => exact Utf8.decodeMarked_encode t
  | utf16 => exact Utf16.decodeMarked_encode t
  | utf16Little => exact Utf16.decode_encode .little t
  | utf16Big => exact Utf16.decode_encode .big t
  | ascii => exact SingleByte.decodeFrom_encode (by decide) (fun c hc => Nat.lt_succ_of_le (h c hc)) 0
  | latin1 =>
    exact SingleByte.decodeFrom_encode (by decide) (fun c hc => Nat.lt_succ_of_le (h c hc)) 0

end Encoding

variable [Codecs]

/-- What is written in an encoding is read back in that encoding. -/
theorem decodeBytes_of_encodePoints {name : Text} {encoding : Encoding}
    (hname : Encoding.ofName? name = some encoding) {points : Points} {bytes : Bytes}
    (h : encodePoints name points = .ok bytes) : decodeBytes name bytes = .ok points := by
  obtain ⟨t, rfl, hall, rfl⟩ := (encodePoints_eq_ok_iff hname).mp h
  rw [decodeBytes, findCodec, hname]
  dsimp only
  rw [Codec.decode, Encoding.decode_bytes hall]
  rfl

end SyntaxReport
