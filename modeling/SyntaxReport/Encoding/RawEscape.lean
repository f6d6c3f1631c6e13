import SyntaxReport.Encoding.System

/-!
# Escaped code points

A codec of the system: the first 256 code points take one byte each, and all others are escaped by a
backslash, the letter `u` or `U`, and their number in four or eight hexadecimal digits. Surrogates
can be escaped like everything else. A backslash in front of another character is one like any
other, and so is that character, even if it is a backslash itself.

* `decodeFrom` reads bytes from left to right and keeps the escape that is under way (`Stage`).
* `encode` writes code points as bytes, and never fails.
* `SmallSystem` has the instance of `Codecs` for a system with this codec and no other.
-/

namespace SyntaxReport.RawEscape

/-- An escape under way: where its backslash stands, whether it is a long one, its digits so far as
a number, and how many digits are still to come besides the next one. -/
structure Escape where
  start : Nat
  long : Bool
  value : Nat
  later : Nat
  deriving DecidableEq, Repr

/-- How much of an escape has been read. -/
inductive Stage where
  /-- Nothing. -/
  | outside
  /-- The backslash. -/
  | started
  /-- The letter and some digits. -/
  | opened (escape : Escape)
  deriving DecidableEq, Repr

/-- The value of a hexadecimal digit. -/
def digit? (b : UInt8) : Option Nat :=
  let c := Char.ofNat b.toNat
  if c.isDigit then some (c.toNat - '0'.toNat)
  else if 'a' ≤ c ∧ c ≤ 'f' then some (c.toNat - 'a'.toNat + 10)
  else if 'A' ≤ c ∧ c ≤ 'F' then some (c.toNat - 'A'.toNat + 10)
  else none

/-- What can be wrong with an escape. -/
inductive Fault where
  /-- It has too few digits. -/
  | truncated
  /-- It is the number of no code point. -/
  | outOfRange
  deriving DecidableEq, Repr

/-- The words for what is wrong. -/
def Fault.words (fault : Fault) (long : Bool) : Text :=
  match fault, long with
  | truncated, false => "truncated \\uXXXX escape".toList
  | truncated, true => "truncated \\UXXXXXXXX escape".toList
  | outOfRange, _ => "\\Uxxxxxxxx out of range".toList

/-- The failure in words. -/
def Escape.message (escape : Escape) (stop : Nat) (fault : Fault) : Text :=
  "'rawunicodeescape' codec can't decode bytes in position ".toList ++
    positionRange escape.start stop ++ ": ".toList ++ fault.words escape.long

theorem Escape.visible_message (escape : Escape) (stop : Nat) (fault : Fault) :
    (escape.message stop fault).Visible := by
  have hwords : (fault.words escape.long).Visible := by
    cases fault <;> cases escape.long <;> decide
  have hstop : (Text.decimal (stop - 1)).Visible := Text.visible_decimal _
  unfold message positionRange
  simp only [Text.visible_append, Text.visible_cons, Text.visible_decimal, hstop, hwords, and_true]
  decide

/-- The failure about an escape, of which the bytes to before `stop` have been read. -/
def Escape.failure (escape : Escape) (stop : Nat) (fault : Fault) : CodecFailure :=
  let hvisible := escape.visible_message stop fault
  { message := escape.message stop fault
    inert := Console.escapesAllow_of_visible hvisible
    getLast?_ne := fun hlast => hvisible.not_mem (by decide) (List.mem_of_getLast? hlast) }

/-- The code point of a byte by itself. -/
def ofByte (b : UInt8) : CodePoint := .char (Char.ofNat b.toNat)

/-- Decode the bytes from `position` on. -/
def decodeFrom (position : Nat) : Stage → Bytes → Except CodecFailure Points
  | .outside, [] => .ok []
  | .started, [] => .ok [.char '\\']
  | .opened escape, [] => .error (escape.failure position .truncated)
  | .outside, b :: rest =>
    if b = 0x5C then decodeFrom (position + 1) .started rest
    else (decodeFrom (position + 1) .outside rest).map (ofByte b :: ·)
  | .started, b :: rest =>
    if b = 0x75 then decodeFrom (position + 1) (.opened ⟨position - 1, false, 0, 3⟩) rest
    else if b = 0x55 then decodeFrom (position + 1) (.opened ⟨position - 1, true, 0, 7⟩) rest
    else (decodeFrom (position + 1) .outside rest).map ([.char '\\', ofByte b] ++ ·)
  | .opened escape, b :: rest =>
    match digit? b with
    | none => .error (escape.failure position .truncated)
    | some digit =>
      let value := escape.value * 16 + digit
      match escape.later with
      | later + 1 => decodeFrom (position + 1) (.opened { escape with value, later }) rest
      | 0 =>
        match CodePoint.ofNat? value with
        | none => .error (escape.failure (position + 1) .outOfRange)
        | some point => (decodeFrom (position + 1) .outside rest).map (point :: ·)

/-- The bytes of characters of ASCII. -/
def asciiBytes (t : Text) : Bytes := Encoding.SingleByte.encode t

/-- The bytes of a code point. -/
def encodePoint (point : CodePoint) : Bytes :=
  if point.toNat < 0x100 then [UInt8.ofNat point.toNat]
  else if point.toNat < 0x10000 then asciiBytes ('\\' :: 'u' :: Text.fixedDigits 16 4 point.toNat)
  else asciiBytes ('\\' :: 'U' :: Text.fixedDigits 16 8 point.toNat)

/-- The codec. -/
def codec : SystemCodec where
  decode bytes := decodeFrom 0 .outside bytes
  encode points := .ok (points.flatMap encodePoint)
  encode_digits _ t _ _ := ⟨t.flatMap encodePoint, rfl⟩

/-- The name of the codec, in its normal spelling. -/
def codecName : Text := "raw_unicode_escape".toList

end SyntaxReport.RawEscape

namespace SyntaxReport.SmallSystem

/-- A system with this codec, and no other. -/
scoped instance : Codecs where
  find name :=
    if Encoding.normalName name = RawEscape.codecName then .codec RawEscape.codec else .nothing

end SyntaxReport.SmallSystem
