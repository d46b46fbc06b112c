import SourceOutline.Text.Utf8

set_option autoImplicit false

/-! # Codecs

A file is decoded by the codec that settings name. Which codecs there are and what they make of
bytes is up to the system: a codec gives a text, tells which bytes stand for no character, or
refuses the bytes for another reason. Only UTF-8 is there on every system. What is said about files
holds for any codecs. -/

namespace SourceOutline

/-- Why a name stands for no encoding. -/
inductive EncodingFault where
  | unknown (name : String)
  /-- The name stands for a code that gives no text. -/
  | notText (name : String)
  | nullCharacter
deriving Repr, DecidableEq

/-- The wording of a fault. -/
def EncodingFault.message : EncodingFault → String
  | unknown name => "unknown encoding: " ++ name
  | notText name =>
    "'" ++ name ++ "' is not a text encoding; use codecs.open() to handle arbitrary codecs"
  | nullCharacter => "embedded null character"

/-- Why bytes cannot be decoded. -/
inductive DecodingFault where
  /-- Some bytes stand for no character. -/
  | undecodable (fault : DecodeFault)
  /-- The bytes are refused for another reason, in the words of the codec. -/
  | refused (words : String)
deriving Repr, DecidableEq

/-- The wording of a fault. -/
def DecodingFault.message : DecodingFault → String
  | undecodable fault => fault.message
  | refused words => words

/-- What a codec makes of the bytes of a file. -/
abbrev Decoder := List UInt8 → Except DecodingFault (List Char)

/-- The decoder of UTF-8. -/
def utf8Decoder : Decoder :=
  fun bytes => (decodeUtf8 bytes).mapError .undecodable

/-- The codecs of a system: the decoder of each name, or why the name stands for none. The name
    `locale` stands for the encoding that is used where none is named. -/
structure Codecs where
  decoder : String → Except EncodingFault Decoder
  decoder_utf8 : decoder "utf-8" = .ok utf8Decoder

end SourceOutline
