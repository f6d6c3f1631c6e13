import SyntaxReport.Encoding.Basic

/-!
# Encodings with one byte per character

The first 128 or 256 characters stand for themselves, and there are no others.
-/

namespace SyntaxReport.Encoding.SingleByte

/-- The bytes of a text of the first 256 characters. -/
def encode (t : Text) : Bytes :=
  t.map fun c => UInt8.ofNat c.toNat

/-- Decode bytes below `limit`, from `position` on. -/
def decodeFrom (encoding : Encoding) (limit position : Nat) : Bytes → Except DecodeError Text
  | [] => .ok []
  | b :: rest =>
    if b.toNat < limit then
      (decodeFrom encoding limit (position + 1) rest).map (Char.ofNat b.toNat :: ·)
    else .error (.malformed encoding b position (position + 1) .outOfRange)

end SyntaxReport.Encoding.SingleByte
