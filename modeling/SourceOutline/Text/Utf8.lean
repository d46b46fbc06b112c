import SourceOutline.Text.Decoding

set_option autoImplicit false

/-! # UTF-8

A character takes one to four bytes: the first tells how many continuation bytes are owed and,
together with the others, the code point. The range of the byte after the first is narrowed where
a code point would have a shorter form, would be a surrogate, or would lie beyond the last one, so
the decoder stops at the first byte that rules out a character. -/

namespace SourceOutline

/-! ## Encoding -/

/-- A continuation byte with the last six bits of a number. -/
def continuationByte (n : Nat) : UInt8 :=
  UInt8.ofNat (0x80 + n % 0x40)

/-- The bytes of a code point. -/
def utf8BytesOf (n : Nat) : List UInt8 :=
  if n < 0x80 then [UInt8.ofNat n]
  else if n < 0x800 then [UInt8.ofNat (0xC0 + n / 0x40), continuationByte n]
  else if n < 0x10000 then
    [UInt8.ofNat (0xE0 + n / 0x1000), continuationByte (n / 0x40), continuationByte n]
  else
    [UInt8.ofNat (0xF0 + n / 0x40000), continuationByte (n / 0x1000), continuationByte (n / 0x40),
     continuationByte n]

/-- The bytes of a text. -/
def encodeUtf8 (text : List Char) : List UInt8 :=
  text.flatMap fun c => utf8BytesOf c.toNat

/-! ## Decoding -/

/-- A character that has begun: where, by which byte, the bits so far, how many bytes are owed
    after the next one, and the range in which the next one has to lie. -/
structure Utf8Pending where
  position : Nat
  byte : UInt8
  bits : Nat
  owed : Nat
  low : Nat := 0x80
  high : Nat := 0xBF

/-- What a first byte of several begins, if it can be one. -/
def Utf8Pending.ofByte? (position : Nat) (byte : UInt8) : Option Utf8Pending :=
  let n := byte.toNat
  if n < 0xC2 then none
  else if n < 0xE0 then some { position, byte, bits := n - 0xC0, owed := 0 }
  else if n = 0xE0 then some { position, byte, bits := 0, owed := 1, low := 0xA0 }
  else if n = 0xED then some { position, byte, bits := n - 0xE0, owed := 1, high := 0x9F }
  else if n < 0xF0 then some { position, byte, bits := n - 0xE0, owed := 1 }
  else if n = 0xF0 then some { position, byte, bits := 0, owed := 2, low := 0x90 }
  else if n < 0xF4 then some { position, byte, bits := n - 0xF0, owed := 2 }
  else if n = 0xF4 then some { position, byte, bits := n - 0xF0, owed := 2, high := 0x8F }
  else none

/-- The fault of a character that breaks off before `position`. -/
def Utf8Pending.fault (pending : Utf8Pending) (position : Nat) (reason : DecodeReason) :
    DecodeFault where
  codec := "utf-8"
  byte := pending.byte
  position := pending.position
  further := position - pending.position - 1
  reason := reason

/-- The characters of the bytes from `position` on, of which a first one may have begun. -/
def decodeUtf8From (position : Nat) :
    Option Utf8Pending → List UInt8 → Except DecodeFault (List Char)
  | none, [] => .ok []
  | some pending, [] => .error (pending.fault position .unexpectedEnd)
  | none, byte :: rest =>
    if byte.toNat < 0x80 then
      (decodeUtf8From (position + 1) none rest).map (Char.ofNat byte.toNat :: ·)
    else match Utf8Pending.ofByte? position byte with
      | some pending => decodeUtf8From (position + 1) (some pending) rest
      | none => .error { codec := "utf-8", byte, position, reason := .invalidStart }
  | some pending, byte :: rest =>
    if pending.low ≤ byte.toNat && byte.toNat ≤ pending.high then
      let bits := pending.bits * 0x40 + byte.toNat % 0x40
      match pending.owed with
      | 0 => (decodeUtf8From (position + 1) none rest).map (Char.ofNat bits :: ·)
      | owed + 1 =>
        decodeUtf8From (position + 1)
          (some { position := pending.position, byte := pending.byte, bits, owed }) rest
    else .error (pending.fault position .invalidContinuation)

/-- The text of bytes in UTF-8. -/
def decodeUtf8 (bytes : List UInt8) : Except DecodeFault (List Char) :=
  decodeUtf8From 0 none bytes

/-- The byte order mark in UTF-8. -/
def utf8Mark : List UInt8 := [0xEF, 0xBB, 0xBF]

/-- The text of bytes in UTF-8 after a mark at the start, which may be missing. Bytes that are but
    the beginning of a mark hold no text, and positions count from the end of the mark. -/
def decodeMarkedUtf8 (bytes : List UInt8) : Except DecodeFault (List Char) :=
  if bytes.isPrefixOf utf8Mark then .ok []
  else if utf8Mark.isPrefixOf bytes then decodeUtf8 (bytes.drop utf8Mark.length)
  else decodeUtf8 bytes

end SourceOutline
