import SyntaxReport.Encoding.Basic

/-!
# UTF-8

A character takes one to four bytes. The first byte says how many follow and which values the
second may have; that range is what rules out overlong forms, surrogates and values beyond the last
code point. All further bytes lie from 80 to BF.

* `encodeChar` and `encode` write characters as bytes.
* `decode` reads bytes from left to right and keeps the character that is under way (`Pending`).
  When it fails, the range of the failure is the longest start of a character that was read.
-/

namespace SyntaxReport.Encoding.Utf8

/-- The bytes of a code point. -/
def encodeCode (n : Nat) : Bytes :=
  if n < 0x80 then [UInt8.ofNat n]
  else if n < 0x800 then
    [UInt8.ofNat (0xC0 + n / 0x40), UInt8.ofNat (0x80 + n % 0x40)]
  else if n < 0x10000 then
    [UInt8.ofNat (0xE0 + n / 0x1000), UInt8.ofNat (0x80 + n / 0x40 % 0x40),
      UInt8.ofNat (0x80 + n % 0x40)]
  else
    [UInt8.ofNat (0xF0 + n / 0x40000), UInt8.ofNat (0x80 + n / 0x1000 % 0x40),
      UInt8.ofNat (0x80 + n / 0x40 % 0x40), UInt8.ofNat (0x80 + n % 0x40)]

/-- The bytes of a character. -/
def encodeChar (c : Char) : Bytes :=
  encodeCode c.toNat

/-- The bytes of a text. -/
def encode (t : Text) : Bytes :=
  t.flatMap encodeChar

/-- The smallest and the largest value that a byte may have. -/
abbrev Bounds := Nat × Nat

/-- The bounds of a byte that continues a character. -/
def tail : Bounds := (0x80, 0xBF)

/-- What a first byte contributes to the code point, and the bounds of the bytes that follow. -/
def lead? (b : Nat) : Option (Nat × List Bounds) :=
  if b < 0x80 then some (b, [])
  else if b < 0xC2 then none
  else if b < 0xE0 then some (b - 0xC0, [tail])
  else if b = 0xE0 then some (0, [(0xA0, 0xBF), tail])
  else if b = 0xED then some (0xD, [(0x80, 0x9F), tail])
  else if b < 0xF0 then some (b - 0xE0, [tail, tail])
  else if b = 0xF0 then some (0, [(0x90, 0xBF), tail, tail])
  else if b < 0xF4 then some (b - 0xF0, [tail, tail, tail])
  else if b = 0xF4 then some (4, [(0x80, 0x8F), tail, tail])
  else none

/-- A character under way: its first byte and where that stands, the code point so far, and the
bounds of the bytes that are still to come, of which there is at least one. -/
structure Pending where
  first : UInt8
  start : Nat
  value : Nat
  next : Bounds
  later : List Bounds
  deriving DecidableEq, Repr

/-- The failure at the end of the bytes, or before a byte that does not fit. -/
def Pending.error (p : Pending) (position : Nat) (fault : DecodeFault) : DecodeError :=
  .malformed .utf8 p.first p.start position fault

/-- Decode the bytes from `position` on, with a character under way or at the start of one. -/
def decodeFrom (position : Nat) : Option Pending → Bytes → Except DecodeError Text
  | none, [] => .ok []
  | some p, [] => .error (p.error position .unexpectedEnd)
  | none, b :: rest =>
    match lead? b.toNat with
    | none => .error (.malformed .utf8 b position (position + 1) .invalidStart)
    | some (value, []) => (decodeFrom (position + 1) none rest).map (Char.ofNat value :: ·)
    | some (value, next :: later) =>
      decodeFrom (position + 1) (some ⟨b, position, value, next, later⟩) rest
  | some p, b :: rest =>
    if p.next.1 ≤ b.toNat ∧ b.toNat ≤ p.next.2 then
      let value := p.value * 0x40 + b.toNat % 0x40
      match p.later with
      | [] => (decodeFrom (position + 1) none rest).map (Char.ofNat value :: ·)
      | next :: later => decodeFrom (position + 1) (some { p with value, next, later }) rest
    else .error (p.error position .invalidContinuation)

/-- The text that the bytes encode. -/
def decode (bytes : Bytes) : Except DecodeError Text :=
  decodeFrom 0 none bytes

/-- The byte order mark in UTF-8. -/
def mark : Bytes := [0xEF, 0xBB, 0xBF]

/-- The text that the bytes encode behind a byte order mark, if there is one. Bytes that end
within the mark encode the empty text. -/
def decodeMarked (bytes : Bytes) : Except DecodeError Text :=
  if mark.isPrefixOf bytes then decode (bytes.drop mark.length)
  else if bytes.isPrefixOf mark then .ok []
  else decode bytes

end SyntaxReport.Encoding.Utf8
