import SyntaxReport.Encoding.Codec

/-!
# Codecs of the system

Besides the encodings of this library, the system may have codecs for many others. What is known of
them is what everything here relies on. They are found by name. They decode bytes to code points,
surrogates among them, and encode code points as bytes. If they fail, they say so in words that hold
no control sequence (`CodecFailure`). And to them the ten digits are alike: in place of a digit that
can be encoded, any other can be.

* `SystemCodec` is such a codec, `Codecs` says what the system has under a name.
* `Codec` is a codec of either kind.
-/

namespace SyntaxReport

/-- The code point, or zero for any digit. -/
def CodePoint.anyDigit : CodePoint → CodePoint
  | char c => if c.isDigit then char '0' else char c
  | surrogate number => surrogate number

/-- A codec of the system. -/
structure SystemCodec where
  decode : Bytes → Except CodecFailure Points
  encode : Points → Except CodecFailure Bytes
  /-- A string can be encoded if another one can that differs in its digits only. -/
  encode_digits : ∀ s t : Points, s.map CodePoint.anyDigit = t.map CodePoint.anyDigit →
    (∃ bytes, encode s = .ok bytes) → ∃ bytes, encode t = .ok bytes

/-- What the system has under a name. -/
inductive Registration where
  | nothing
  /-- A codec, but none that decodes bytes to text. -/
  | notText
  | codec (codec : SystemCodec)

/-- The codecs of the system, for the names that are not those of an `Encoding`. -/
class Codecs where
  find : Text → Registration

/-- An encoding of this library, or a codec of the system. -/
inductive Codec where
  | own (encoding : Encoding)
  | ofSystem (codec : SystemCodec)

namespace Codec

/-- The code points that the bytes encode. -/
def decode : Codec → Bytes → Except DecodeError Points
  | own encoding, bytes => (encoding.decode bytes).map Text.points
  | ofSystem codec, bytes => (codec.decode bytes).mapError .ofSystem

/-- The bytes that encode the string. -/
def encode : Codec → Points → Except EncodeError Bytes
  | own encoding, points => encoding.encode points
  | ofSystem codec, points => (codec.encode points).mapError .ofSystem

end Codec

end SyntaxReport
