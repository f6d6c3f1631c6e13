import SyntaxReport.Encoding.Basic

/-!
# UTF-16

A character takes one unit of two bytes, or two units for a code point beyond FFFF, which is then a
surrogate pair. The order of the two bytes is fixed by the encoding, or given by a byte order mark.

* `encode` writes a text in an order, `decode` reads one.
* `decodeMarked` reads the order off the mark; without a mark, it reads nothing.
-/

namespace SyntaxReport.Encoding.Utf16

/-- The order of the two bytes of a unit. -/
inductive Order where
  | little
  | big
  deriving DecidableEq, Repr

namespace Order

/-- The encoding with this order. -/
def encoding : Order → Encoding
  | little => .utf16Little
  | big => .utf16Big

/-- The two bytes of a unit. -/
def bytes (order : Order) (unit : Nat) : Bytes :=
  match order with
  | little => [UInt8.ofNat (unit % 0x100), UInt8.ofNat (unit / 0x100)]
  | big => [UInt8.ofNat (unit / 0x100), UInt8.ofNat (unit % 0x100)]

/-- The unit of two bytes. -/
def unit (order : Order) (a b : UInt8) : Nat :=
  match order with
  | little => b.toNat * 0x100 + a.toNat
  | big => a.toNat * 0x100 + b.toNat

end Order

/-- The first half of a surrogate pair. -/
def isHigh (unit : Nat) : Bool := decide (0xD800 ≤ unit ∧ unit < 0xDC00)

/-- The second half of a surrogate pair. -/
def isLow (unit : Nat) : Bool := decide (0xDC00 ≤ unit ∧ unit < 0xE000)

/-- The code point of a surrogate pair. -/
def pairCode (high low : Nat) : Nat :=
  0x10000 + (high - 0xD800) * 0x400 + (low - 0xDC00)

/-- The units of a character. -/
def units (c : Char) : List Nat :=
  if c.toNat < 0x10000 then [c.toNat]
  else [0xD800 + (c.toNat - 0x10000) / 0x400, 0xDC00 + (c.toNat - 0x10000) % 0x400]

/-- The bytes of a text. -/
def encode (order : Order) (t : Text) : Bytes :=
  t.flatMap fun c => (units c).flatMap order.bytes

/-- Decode the bytes from `position` on. -/
def decodeFrom (order : Order) (position : Nat) : Bytes → Except DecodeError Text
  | [] => .ok []
  | [a] => .error (.malformed order.encoding a position (position + 1) .truncated)
  | a :: b :: rest =>
    let unit := order.unit a b
    let fail (stop : Nat) (fault : DecodeFault) : Except DecodeError Text :=
      .error (.malformed order.encoding a position stop fault)
    if isHigh unit then
      match rest with
      | [] => fail (position + 2) .unexpectedEnd
      | [_] => fail (position + 3) .unexpectedEnd
      | c :: d :: more =>
        let low := order.unit c d
        if isLow low then
          (decodeFrom order (position + 4) more).map (Char.ofNat (pairCode unit low) :: ·)
        else fail (position + 2) .unpairedHigh
    else if isLow unit then fail (position + 2) .unpairedLow
    else (decodeFrom order (position + 2) rest).map (Char.ofNat unit :: ·)

/-- The text that the bytes encode in the given order. -/
def decode (order : Order) (bytes : Bytes) : Except DecodeError Text :=
  decodeFrom order 0 bytes

/-- The byte order mark, as a unit. -/
def mark : Nat := 0xFEFF

/-- The text behind a byte order mark, with positions counted from the mark on. Bytes without a
mark are refused unless there are none; what is wrong with them as little-endian text is reported
before the missing mark. -/
def decodeMarked (bytes : Bytes) : Except DecodeError Text :=
  if (Order.little.bytes mark).isPrefixOf bytes then decodeFrom .little 2 (bytes.drop 2)
  else if (Order.big.bytes mark).isPrefixOf bytes then decodeFrom .big 2 (bytes.drop 2)
  else
    match decode .little bytes with
    | .error error => .error error
    | .ok [] => .ok []
    | .ok _ => .error .missingMark

end SyntaxReport.Encoding.Utf16
