import SourceOutline.Text.Hex

set_option autoImplicit false

/-! # What can be wrong with encoded text

A decoder that meets bytes which stand for no character stops there and tells which bytes, at what
position, and why. Positions count from zero. -/

namespace SourceOutline

/-- Why bytes stand for no character. -/
inductive DecodeReason where
  | invalidStart
  | invalidContinuation
  | unexpectedEnd
  | notAscii
  | undefinedByte
  | truncatedUnit
  | lowSurrogate
  | brokenPair
  /-- A reason that another codec gives in its own words. -/
  | other (words : String)
deriving Repr, DecidableEq

/-- The wording of a reason. -/
def DecodeReason.message : DecodeReason → String
  | invalidStart => "invalid start byte"
  | invalidContinuation => "invalid continuation byte"
  | unexpectedEnd => "unexpected end of data"
  | notAscii => "ordinal not in range(128)"
  | undefinedByte => "character maps to <undefined>"
  | truncatedUnit => "truncated data"
  | lowSurrogate => "illegal encoding"
  | brokenPair => "illegal UTF-16 surrogate"
  | other words => words

/-- Bytes that stand for no character: the first of them, where it is, and how many more there
    are. -/
structure DecodeFault where
  codec : String
  byte : UInt8
  position : Nat
  further : Nat := 0
  reason : DecodeReason
deriving Repr, DecidableEq

/-- The wording of a fault; a single byte is shown, several are only located. -/
def DecodeFault.message (fault : DecodeFault) : String :=
  let place :=
    if fault.further = 0 then
      "byte 0x" ++ String.ofList (hexDigits 2 fault.byte.toNat) ++ " in position "
        ++ toString fault.position
    else
      "bytes in position " ++ toString fault.position ++ "-"
        ++ toString (fault.position + fault.further)
  "'" ++ fault.codec ++ "' codec can't decode " ++ place ++ ": " ++ fault.reason.message

end SourceOutline
