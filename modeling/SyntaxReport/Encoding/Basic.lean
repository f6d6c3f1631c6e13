import SyntaxReport.Console.Inert
import SyntaxReport.Text.CodePoint
import SyntaxReport.Text.Quoted

/-!
# Encodings

The encodings of text as bytes that have a name, and the ways in which decoding and encoding fail.
A failure says where it happened: positions count bytes when decoding and code points when encoding,
from 0, and a range goes from `start` up to but not including `stop`.

An encoding is asked for by any spelling of one of its names: letters count as small, and what is
neither a letter or digit of ASCII nor a point only separates (`normalName`).

Decoding and encoding can also be the work of a codec of the system, which fails in its own words.
-/

namespace SyntaxReport

/-- An encoding of text as bytes. -/
inductive Encoding where
  | utf8
  /-- UTF-8 behind a byte order mark. -/
  | utf8Marked
  /-- UTF-16 behind a byte order mark, which gives the order of the bytes. -/
  | utf16
  | utf16Little
  | utf16Big
  | ascii
  | latin1
  deriving DecidableEq, Repr

namespace Encoding

/-- The proper name of an encoding. -/
def name : Encoding → Text
  | utf8 => "utf_8".toList
  | utf8Marked => "utf_8_sig".toList
  | utf16 => "utf_16".toList
  | utf16Little => "utf_16_le".toList
  | utf16Big => "utf_16_be".toList
  | ascii => "ascii".toList
  | latin1 => "latin_1".toList

/-- The encodings. -/
def all : List Encoding := [utf8, utf8Marked, utf16, utf16Little, utf16Big, ascii, latin1]

/-- Further names. -/
def aliases : List (Text × Encoding) :=
  [("cp65001".toList, utf8), ("u8".toList, utf8), ("utf".toList, utf8), ("utf8".toList, utf8),
   ("utf8_ucs2".toList, utf8), ("utf8_ucs4".toList, utf8), ("u16".toList, utf16),
   ("utf16".toList, utf16), ("unicodelittleunmarked".toList, utf16Little),
   ("utf_16le".toList, utf16Little), ("unicodebigunmarked".toList, utf16Big),
   ("utf_16be".toList, utf16Big), ("646".toList, ascii), ("ansi_x3.4_1968".toList, ascii),
   ("ansi_x3.4_1986".toList, ascii), ("ansi_x3_4_1968".toList, ascii), ("cp367".toList, ascii),
   ("csascii".toList, ascii), ("ibm367".toList, ascii), ("iso646_us".toList, ascii),
   ("iso_646.irv_1991".toList, ascii), ("iso_ir_6".toList, ascii), ("us".toList, ascii),
   ("us_ascii".toList, ascii), ("8859".toList, latin1), ("cp819".toList, latin1),
   ("csisolatin1".toList, latin1), ("ibm819".toList, latin1), ("iso8859".toList, latin1),
   ("iso8859_1".toList, latin1), ("iso_8859_1".toList, latin1),
   ("iso_8859_1_1987".toList, latin1), ("iso_ir_100".toList, latin1), ("l1".toList, latin1),
   ("latin".toList, latin1), ("latin1".toList, latin1)]

/-- The rest of a name in small letters, with one underscore for each run of separators between two
other characters: `inside` says whether there has been another character, and `apart` whether a
separator came last. -/
def normalNameFrom (inside apart : Bool) : Text → Text
  | [] => []
  | c :: rest =>
    if c.isAlphanum || c == '.' then
      (if inside && apart then ['_'] else []) ++ c.toLower :: normalNameFrom true false rest
    else normalNameFrom inside true rest

/-- The normal spelling of a name. -/
def normalName (name : Text) : Text :=
  normalNameFrom false false name

/-- The encoding that goes by a name in its normal spelling. Points in an alias can be underscores.
-/
def ofNormalName? (name : Text) : Option Encoding :=
  let underscored := name.map fun c => if c = '.' then '_' else c
  (aliases.lookup name).or ((aliases.lookup underscored).or
    (all.find? fun encoding => encoding.name == name))

/-- The encoding of a name. The character that ends such names is in none of them. -/
def ofName? (name : Text) : Option Encoding :=
  if name.contains (Char.ofNat 0) then none else ofNormalName? (normalName name)

/-- The name by which a failure calls an encoding. -/
def title : Encoding → Text
  | utf8 => "utf-8".toList
  | utf8Marked => "utf-8-sig".toList
  | utf16 => "utf-16".toList
  | utf16Little => "utf-16-le".toList
  | utf16Big => "utf-16-be".toList
  | ascii => "ascii".toList
  | latin1 => "latin-1".toList

/-- The name of the encoding that is used unless another is asked for. -/
def defaultName : Text := "utf-8".toList

end Encoding

/-- What is wrong with the bytes at the start of a range. -/
inductive DecodeFault where
  /-- No character starts with this byte. -/
  | invalidStart
  /-- The byte behind the range cannot continue the character. -/
  | invalidContinuation
  /-- The data ends within a character. -/
  | unexpectedEnd
  /-- The byte is no character of the encoding. -/
  | outOfRange
  /-- A single byte is left where two are needed. -/
  | truncated
  /-- The second half of a surrogate pair comes first. -/
  | unpairedLow
  /-- The first half of a surrogate pair is not followed by the second. -/
  | unpairedHigh
  deriving DecidableEq, Repr

/-- The failure of a codec of the system, in its own words. They may quote what cannot be decoded,
but they hold no control sequence, and do not end with the character 01, which may stand before one.
-/
structure CodecFailure where
  message : Text
  inert : Console.Inert message
  getLast?_ne : message.getLast? ≠ some '\x01'
  deriving DecidableEq, Repr

/-- The failure of decoding bytes. -/
inductive DecodeError where
  /-- The bytes from `start` to before `stop`, of which the first is `first`, are no character. -/
  | malformed (encoding : Encoding) (first : UInt8) (start stop : Nat) (fault : DecodeFault)
  /-- The byte order mark is missing. -/
  | missingMark
  | ofSystem (failure : CodecFailure)
  deriving DecidableEq, Repr

/-- What is wrong with code points that cannot be encoded. -/
inductive EncodeFault where
  /-- The encoding has only so many characters. -/
  | outOfRange (limit : Nat)
  /-- They are surrogates. -/
  | surrogates
  deriving DecidableEq, Repr

/-- The failure of encoding a string. -/
inductive EncodeError where
  /-- The code points from `start` to before `stop`, of which the first is `first`, are missing in
  the encoding. -/
  | missing (encoding : Encoding) (first : CodePoint) (start stop : Nat) (fault : EncodeFault)
  | ofSystem (failure : CodecFailure)
  deriving DecidableEq, Repr

/-- The words for what is wrong. -/
def DecodeFault.message : DecodeFault → Text
  | invalidStart => "invalid start byte".toList
  | invalidContinuation => "invalid continuation byte".toList
  | unexpectedEnd => "unexpected end of data".toList
  | outOfRange => "ordinal not in range(128)".toList
  | truncated => "truncated data".toList
  | unpairedLow => "illegal encoding".toList
  | unpairedHigh => "illegal UTF-16 surrogate".toList

/-- A range of positions, by its first and its last position. -/
def positionRange (start stop : Nat) : Text :=
  Text.decimal start ++ '-' :: Text.decimal (stop - 1)

/-- The failure in words: one byte is shown, several are not. -/
def DecodeError.message : DecodeError → Text
  | malformed encoding first start stop fault =>
    Text.apostrophe :: encoding.title ++ Text.apostrophe :: " codec can't decode ".toList ++
      (if stop = start + 1 then
        "byte 0x".toList ++ Text.hexByte first ++ " in position ".toList ++ Text.decimal start
      else "bytes in position ".toList ++ positionRange start stop) ++
      ": ".toList ++ fault.message
  | missingMark => "UTF-16 stream does not start with BOM".toList
  | ofSystem failure => failure.message

/-- The words for what is wrong. -/
def EncodeFault.message : EncodeFault → Text
  | outOfRange limit => "ordinal not in range(".toList ++ Text.decimal limit ++ [')']
  | surrogates => "surrogates not allowed".toList

/-- The failure in words: one code point is shown by its number, several are not. -/
def EncodeError.message : EncodeError → Text
  | missing encoding first start stop fault =>
    Text.apostrophe :: encoding.title ++ Text.apostrophe :: " codec can't encode ".toList ++
      (if stop = start + 1 then
        "character ".toList ++ Text.apostrophe :: Text.codeEscape first.toNat ++
          Text.apostrophe :: " in position ".toList ++ Text.decimal start
      else "characters in position ".toList ++ positionRange start stop) ++
      ": ".toList ++ fault.message
  | ofSystem failure => failure.message

end SyntaxReport
