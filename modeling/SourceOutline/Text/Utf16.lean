import SourceOutline.Text.Decoding

set_option autoImplicit false

/-! # UTF-16

Text is a sequence of units of two bytes, in one of two orders. A unit is a character, or a high
surrogate that makes one together with the low surrogate after it. A mark at the start tells the
order. -/

namespace SourceOutline

/-- The order of the two bytes of a unit. -/
inductive ByteOrder where
  | little
  | big
deriving Repr, DecidableEq

/-- The name of UTF-16 in the given order. -/
def ByteOrder.codec : ByteOrder → String
  | little => "utf-16-le"
  | big => "utf-16-be"

/-- The unit of two bytes. -/
def ByteOrder.unit (order : ByteOrder) (first second : UInt8) : Nat :=
  match order with
  | little => first.toNat + 0x100 * second.toNat
  | big => 0x100 * first.toNat + second.toNat

/-- The characters of the bytes from `position` on. -/
def decodeUtf16From (order : ByteOrder) (position : Nat) :
    List UInt8 → Except DecodeFault (List Char)
  | [] => .ok []
  | [byte] => .error { codec := order.codec, byte, position, reason := .truncatedUnit }
  | first :: second :: rest =>
    let unit := order.unit first second
    let fault (further : Nat) (reason : DecodeReason) : DecodeFault :=
      { codec := order.codec, byte := first, position, further, reason }
    if unit < 0xD800 || 0xE000 ≤ unit then
      (decodeUtf16From order (position + 2) rest).map (Char.ofNat unit :: ·)
    else if 0xDC00 ≤ unit then .error (fault 1 .lowSurrogate)
    else match rest with
      | third :: fourth :: rest =>
        let low := order.unit third fourth
        if 0xDC00 ≤ low && low < 0xE000 then
          (decodeUtf16From order (position + 4) rest).map
            (Char.ofNat (0x10000 + (unit - 0xD800) * 0x400 + (low - 0xDC00)) :: ·)
        else .error (fault 1 .brokenPair)
      | [_] => .error (fault 2 .unexpectedEnd)
      | [] => .error (fault 1 .unexpectedEnd)

/-- The text of bytes in the given order. -/
def decodeUtf16 (order : ByteOrder) (bytes : List UInt8) : Except DecodeFault (List Char) :=
  decodeUtf16From order 0 bytes

end SourceOutline
