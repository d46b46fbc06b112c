import SourceOutline.Text.Codec
import SourceOutline.Text.Utf16

set_option autoImplicit false

/-! # Common encodings

Eight encodings are spelled out here, which make up a system of their own (`Encoding.codecs`); the
names of all others are unknown to it. An encoding is known under a name and under several others.
Names are compared without regard to case, and any run of characters other than ASCII letters,
digits and dots counts as one underscore. Some names stand for codes that are made for bytes and
give no text. -/

namespace SourceOutline

/-! ## Encodings and their names -/

/-- Some common encodings. -/
inductive Encoding where
  | utf8
  | markedUtf8
  | ascii
  | latin1
  | windows1252
  | markedUtf16
  | utf16 (order : ByteOrder)
deriving Repr, DecidableEq

/-- Put a name into the form in which names are compared: lower case, with an underscore for a run
    of separators between two letters. `started` tells that a letter has been written, `pending`
    that a separator is due. -/
def normalizeEncodingName (started pending : Bool) : List Char → List Char
  | [] => []
  | c :: rest =>
    if c.isAlphanum || c = '.' then
      let separator := if started && pending then ['_'] else []
      separator ++ c.toLower :: normalizeEncodingName true false rest
    else normalizeEncodingName started true rest

/-- The proper name of an encoding. -/
def Encoding.name : Encoding → String
  | utf8 => "utf_8"
  | markedUtf8 => "utf_8_sig"
  | ascii => "ascii"
  | latin1 => "latin_1"
  | windows1252 => "cp1252"
  | markedUtf16 => "utf_16"
  | utf16 .little => "utf_16_le"
  | utf16 .big => "utf_16_be"

/-- The other names of an encoding. In these a dot may stand for an underscore. -/
def Encoding.otherNames : Encoding → List String
  | utf8 => ["u8", "utf", "utf8", "utf8_ucs2", "utf8_ucs4", "cp65001"]
  | markedUtf8 => []
  | ascii =>
    ["646", "ansi_x3.4_1968", "ansi_x3_4_1968", "ansi_x3.4_1986", "cp367", "csascii", "ibm367",
     "iso646_us", "iso_646.irv_1991", "iso_ir_6", "us", "us_ascii"]
  | latin1 =>
    ["8859", "cp819", "csisolatin1", "ibm819", "iso8859", "iso8859_1", "iso_8859_1",
     "iso_8859_1_1987", "iso_ir_100", "l1", "latin", "latin1"]
  | windows1252 => ["1252", "windows_1252"]
  | markedUtf16 => ["u16", "utf16"]
  | utf16 .little => ["unicodelittleunmarked", "utf_16le"]
  | utf16 .big => ["unicodebigunmarked", "utf_16be"]

/-- The encodings that are told apart here. There are many more. -/
def Encoding.all : List Encoding :=
  [utf8, markedUtf8, ascii, latin1, windows1252, markedUtf16, utf16 .little, utf16 .big]

/-- The proper names of codes that give no text. -/
def byteCodeNames : List String :=
  ["base64_codec", "bz2_codec", "hex_codec", "quopri_codec", "rot_13", "uu_codec", "zlib_codec"]

/-- The other names of codes that give no text. -/
def otherByteCodeNames : List String :=
  ["base64", "base_64", "bz2", "hex", "quopri", "quoted_printable", "quotedprintable", "rot13",
   "uu", "zip", "zlib"]

/-- Whether a name in normal form is one of some proper names, or one of some other names. -/
def isNamed (name : String) (proper other : List String) : Bool :=
  other.contains name || other.contains (name.map fun c => if c = '.' then '_' else c)
    || proper.contains name

/-- The encoding of a name, if it is one of these. -/
def Encoding.ofName (name : String) : Except EncodingFault Encoding :=
  let normal := String.ofList (normalizeEncodingName false false name.toList)
  if name = "locale" then .ok utf8
  else if isNamed normal byteCodeNames otherByteCodeNames then .error (.notText name)
  else
    match Encoding.all.find? fun encoding => isNamed normal [encoding.name] encoding.otherNames with
    | some encoding => .ok encoding
    | none => .error (.unknown name)

/-! ## Decoding -/

/-- The fault of bytes without a mark that tells their order. -/
def DecodingFault.missingMark : DecodingFault :=
  .refused "UTF-16 stream does not start with BOM"

/-- The characters of bytes of which each one stands for itself in some table. -/
def decodeBytewise (codec : String) (reason : DecodeReason) (table : UInt8 → Option Char)
    (position : Nat) : List UInt8 → Except DecodeFault (List Char)
  | [] => .ok []
  | byte :: rest =>
    match table byte with
    | some c => (decodeBytewise codec reason table (position + 1) rest).map (c :: ·)
    | none => .error { codec, byte, position, reason }

/-- The code points from `0x80` to `0x9F` of the Windows alphabet; zero where there is none. -/
def windowsControls : List Nat :=
  [0x20AC, 0, 0x201A, 0x192, 0x201E, 0x2026, 0x2020, 0x2021, 0x2C6, 0x2030, 0x160, 0x2039, 0x152,
   0, 0x17D, 0, 0, 0x2018, 0x2019, 0x201C, 0x201D, 0x2022, 0x2013, 0x2014, 0x2DC, 0x2122, 0x161,
   0x203A, 0x153, 0, 0x17E, 0x178]

/-- The character of a byte in the Windows alphabet. -/
def windowsChar? (byte : UInt8) : Option Char :=
  let n := byte.toNat
  if n < 0x80 || 0xA0 ≤ n then some (Char.ofNat n)
  else match windowsControls[n - 0x80]? with
    | some 0 | none => none
    | some code => some (Char.ofNat code)

/-- The text of bytes in UTF-16 after the mark that tells their order. Without a mark they are
    checked as if the low byte came first, and refused. -/
def decodeMarkedUtf16 (bytes : List UInt8) : Except DecodingFault (List Char) :=
  match bytes with
  | 0xFF :: 0xFE :: rest => (decodeUtf16From .little 2 rest).mapError .undecodable
  | 0xFE :: 0xFF :: rest => (decodeUtf16From .big 2 rest).mapError .undecodable
  | [] => .ok []
  | _ =>
    match decodeUtf16 .little bytes with
    | .ok _ => .error .missingMark
    | .error fault => .error (.undecodable fault)

/-- The text that bytes stand for. -/
def Encoding.decode (encoding : Encoding) (bytes : List UInt8) : Except DecodingFault (List Char) :=
  match encoding with
  | utf8 => utf8Decoder bytes
  | markedUtf8 => (decodeMarkedUtf8 bytes).mapError .undecodable
  | ascii =>
    (decodeBytewise "ascii" .notAscii
      (fun byte => if byte.toNat < 0x80 then some (Char.ofNat byte.toNat) else none) 0
      bytes).mapError .undecodable
  | latin1 => .ok (bytes.map fun byte => Char.ofNat byte.toNat)
  | windows1252 =>
    (decodeBytewise "charmap" .undefinedByte windowsChar? 0 bytes).mapError .undecodable
  | markedUtf16 => decodeMarkedUtf16 bytes
  | utf16 order => (decodeUtf16 order bytes).mapError .undecodable

theorem Encoding.ofName_utf8 : Encoding.ofName "utf-8" = .ok .utf8 := by
  have hname : (Encoding.ofName "utf-8").toOption = some .utf8 := by decide +kernel
  cases hfound : Encoding.ofName "utf-8" with
  | error fault =>
    rw [hfound] at hname
    cases hname
  | ok encoding =>
    rw [hfound] at hname
    cases hname
    rfl

/-- The codecs of a system that has these encodings and no others, and uses UTF-8 where none is
    named. -/
def Encoding.codecs : Codecs where
  decoder name := (Encoding.ofName name).map Encoding.decode
  decoder_utf8 := by
    rw [Encoding.ofName_utf8]
    rfl

theorem Encoding.decoder_codecs {name : String} {encoding : Encoding}
    (h : Encoding.ofName name = .ok encoding) :
    Encoding.codecs.decoder name = .ok encoding.decode := by
  simp only [codecs, h, Except.map]

end SourceOutline
