import SyntaxReport.Encoding.SingleByte
import SyntaxReport.Encoding.Utf16
import SyntaxReport.Encoding.Utf8

/-!
# Decoding and encoding

Each encoding decodes bytes to text and encodes text as bytes. A byte order mark belongs to the
encodings that are named for it: they drop it when decoding and write it when encoding. To the
others it is a character like any other.

A string can be encoded if the encoding has all of its code points. It has no surrogates, and the
encodings with one byte per character have 128 or 256 characters only.
-/

namespace SyntaxReport.Encoding

/-- The text that the bytes encode. -/
def decode : Encoding → Bytes → Except DecodeError Text
  | utf8, bytes => Utf8.decode bytes
  | utf8Marked, bytes => Utf8.decodeMarked bytes
  | utf16, bytes => Utf16.decodeMarked bytes
  | utf16Little, bytes => Utf16.decode .little bytes
  | utf16Big, bytes => Utf16.decode .big bytes
  | ascii, bytes => SingleByte.decodeFrom ascii 0x80 0 bytes
  | latin1, bytes => SingleByte.decodeFrom latin1 0x100 0 bytes

/-- The bytes of a text, if the encoding has its characters. -/
def bytes : Encoding → Text → Bytes
  | utf8, t => Utf8.encode t
  | utf8Marked, t => Utf8.mark ++ Utf8.encode t
  | utf16, t => Utf16.Order.little.bytes Utf16.mark ++ Utf16.encode .little t
  | utf16Little, t => Utf16.encode .little t
  | utf16Big, t => Utf16.encode .big t
  | ascii, t => SingleByte.encode t
  | latin1, t => SingleByte.encode t

/-- Whether the encoding has a code point. -/
def has : Encoding → CodePoint → Bool
  | ascii, point => decide (point.toNat ≤ 127)
  | latin1, point => decide (point.toNat ≤ 255)
  | _, point => point.char?.isSome

/-- What is wrong with the code points that the encoding has not. -/
def encodeFault : Encoding → EncodeFault
  | ascii => .outOfRange 128
  | latin1 => .outOfRange 256
  | _ => .surrogates

/-- Whether a failure is about a run of code points, and not about the first of them only. -/
def failsOnRuns : Encoding → Bool
  | utf16 | utf16Little | utf16Big => false
  | _ => true

/-- The encoding that a failure to encode is put down to: the byte order mark is none of its
concern. -/
def blamed : Encoding → Encoding
  | utf8Marked => utf8
  | encoding => encoding

/-- The failure about the first code points that the encoding has not, if there are any. -/
def encodeError? (encoding : Encoding) (points : Points) : Option EncodeError :=
  match points.dropWhile encoding.has with
  | [] => none
  | first :: rest =>
    let start := (points.takeWhile encoding.has).length
    let more := if encoding.failsOnRuns then rest.takeWhile (!encoding.has ·) else []
    some (.missing encoding.blamed first start (start + 1 + more.length) encoding.encodeFault)

/-- The bytes that encode the string. -/
def encode (encoding : Encoding) (points : Points) : Except EncodeError Bytes :=
  match encoding.encodeError? points with
  | some error => .error error
  | none => .ok (encoding.bytes points.characters)

end SyntaxReport.Encoding
