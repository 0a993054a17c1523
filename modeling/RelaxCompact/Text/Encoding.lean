import RelaxCompact.Text.CodePage
import RelaxCompact.Text.Encoding.DomainName
import RelaxCompact.Text.Encoding.Escaped
import RelaxCompact.Text.Encoding.Iso2022
import RelaxCompact.Text.Encoding.Utf7
import RelaxCompact.Text.Utf8

/-!
Encodings of text as bytes, by the names that they go by. Decoding is strict: a byte sequence that
stands for no character makes it fail.
-/

namespace RelaxCompact

/-- Which byte of a unit comes first. -/
inductive ByteOrder
  | little | big
  deriving DecidableEq, Repr

/-- The encodings of Chinese, Japanese and Korean text in which no character depends on those
before it. -/
inductive EastAsianCode
  | gb2312 | gbk | gb18030 | big5 | windowsBig5 | hongKong | eucKr | unifiedHangul | johab | eucJp
  | eucJis (edition : Encoding.Edition)
  | shiftJis
  | shiftJis2004 (edition : Encoding.Edition)
  | windowsJapanese
  deriving DecidableEq, Repr

/-- A way to spell text as bytes. Without a byte order the text may start with a mark that tells.
No bytes are text in the encoding `undefined`. -/
inductive Encoding
  | utf7
  | utf8
  | markedUtf8
  | utf16 (order : Option ByteOrder)
  | utf32 (order : Option ByteOrder)
  | ascii
  | latin1
  | codePage (page : CodePage)
  | eastAsian (code : EastAsianCode)
  | hz
  | iso2022 (variant : Encoding.Iso2022)
  | escaped
  | rawEscaped
  | punycode
  | domainName
  | undefined

namespace Encoding

/-- Small letters, digits and dots of a name, with an underscore for what stands between them. -/
def plainName : (separated : Bool) → Text → List Char
  | _, [] => []
  | separated, p :: rest =>
    match p.toChar? with
    | some c =>
      if c.isAlphanum || c = '.' then
        let tail := c.toLower :: plainName false rest
        if separated then '_' :: tail else tail
      else plainName true rest
    | none => plainName true rest

/-- The plain form of a name; nothing stands before its first letter. -/
def nameOf (name : Text) : String :=
  match plainName false name with
  | '_' :: rest => String.ofList rest
  | cs => String.ofList cs

/-- All encodings, each with the name that it goes by and with other names for it. -/
def all : List (String × List String × Encoding) :=
  [("utf_7", ["u7", "unicode_1_1_utf_7", "utf7"], utf7),
   ("utf_8", ["u8", "utf", "utf8", "utf8_ucs2", "utf8_ucs4", "cp65001"], utf8),
   ("utf_8_sig", [], markedUtf8),
   ("utf_16", ["u16", "utf16"], utf16 none),
   ("utf_16_le", ["unicodelittleunmarked", "utf_16le"], utf16 (some .little)),
   ("utf_16_be", ["unicodebigunmarked", "utf_16be"], utf16 (some .big)),
   ("utf_32", ["u32", "utf32"], utf32 none),
   ("utf_32_le", ["utf_32le"], utf32 (some .little)),
   ("utf_32_be", ["utf_32be"], utf32 (some .big)),
   ("ascii", ["646", "ansi_x3.4_1968", "ansi_x3_4_1968", "ansi_x3.4_1986", "cp367", "csascii",
      "ibm367", "iso646_us", "iso_646.irv_1991", "iso_ir_6", "us", "us_ascii"], ascii),
   ("latin_1", ["8859", "cp819", "csisolatin1", "ibm819", "iso8859", "iso8859_1", "iso_8859_1",
      "iso_8859_1_1987", "iso_ir_100", "l1", "latin", "latin1"], latin1),
   ("charmap", [], latin1),
   ("gb2312", ["chinese", "csiso58gb231280", "euc_cn", "euccn", "eucgb2312_cn", "gb2312_1980",
      "gb2312_80", "iso_ir_58", "x_mac_simp_chinese"], eastAsian .gb2312),
   ("gbk", ["936", "cp936", "ms936"], eastAsian .gbk),
   ("gb18030", ["gb18030_2000"], eastAsian .gb18030),
   ("hz", ["hz_gb", "hz_gb_2312", "hzgb"], hz),
   ("big5", ["big5_tw", "csbig5", "x_mac_trad_chinese"], eastAsian .big5),
   ("cp950", ["950", "ms950"], eastAsian .windowsBig5),
   ("big5hkscs", ["big5_hkscs", "hkscs"], eastAsian .hongKong),
   ("euc_kr", ["euckr", "korean", "ks_c_5601", "ks_c_5601_1987", "ks_x_1001", "ksc5601",
      "ksx1001", "x_mac_korean"], eastAsian .eucKr),
   ("cp949", ["949", "ms949", "uhc"], eastAsian .unifiedHangul),
   ("johab", ["cp1361", "ms1361"], eastAsian .johab),
   ("euc_jp", ["eucjp", "u_jis", "ujis"], eastAsian .eucJp),
   ("euc_jisx0213", ["eucjisx0213"], eastAsian (.eucJis .first)),
   ("euc_jis_2004", ["euc_jis2004", "eucjis2004", "jisx0213"], eastAsian (.eucJis .second)),
   ("shift_jis", ["csshiftjis", "s_jis", "shiftjis", "sjis", "x_mac_japanese"],
      eastAsian .shiftJis),
   ("shift_jisx0213", ["s_jisx0213", "shiftjisx0213", "sjisx0213"],
      eastAsian (.shiftJis2004 .first)),
   ("shift_jis_2004", ["s_jis_2004", "shiftjis2004", "sjis_2004"],
      eastAsian (.shiftJis2004 .second)),
   ("cp932", ["932", "ms932", "ms_kanji", "mskanji"], eastAsian .windowsJapanese),
   ("iso2022_jp", ["csiso2022jp", "iso2022jp", "iso_2022_jp"], iso2022 .japanese),
   ("iso2022_jp_1", ["iso2022jp_1", "iso_2022_jp_1"], iso2022 .japanese1),
   ("iso2022_jp_2", ["iso2022jp_2", "iso_2022_jp_2"], iso2022 .japanese2),
   ("iso2022_jp_3", ["iso2022jp_3", "iso_2022_jp_3"], iso2022 .japanese3),
   ("iso2022_jp_2004", ["iso2022jp_2004", "iso_2022_jp_2004"], iso2022 .japanese2004),
   ("iso2022_jp_ext", ["iso2022jp_ext", "iso_2022_jp_ext"], iso2022 .japaneseExtended),
   ("iso2022_kr", ["csiso2022kr", "iso2022kr", "iso_2022_kr"], iso2022 .korean),
   ("unicode_escape", [], escaped),
   ("raw_unicode_escape", [], rawEscaped),
   ("punycode", [], punycode),
   ("idna", [], domainName),
   ("undefined", [], undefined)] ++
    CodePage.all.map fun (name, others, page) => (name, others, codePage page)

/-- A name in which dots count as underscores. -/
def withoutDots (name : String) : String :=
  String.ofList (name.toList.map fun c => if c = '.' then '_' else c)

/-- The encoding that goes by a name. -/
def named? (name : Text) : Option Encoding :=
  let plain := nameOf name
  (all.find? fun (main, others, _) =>
    main = plain || others.contains plain || others.contains (withoutDots plain)).map (·.2.2)

/-- A number from its bytes, the least significant one first. -/
def number : List UInt8 → Nat
  | [] => 0
  | b :: rest => b.toNat + 0x100 * number rest

def unit (order : ByteOrder) (bytes : List UInt8) : Nat :=
  number (match order with | .little => bytes | .big => bytes.reverse)

/-- The character with a number that belongs to one. -/
def scalar? (n : Nat) : Option Char := if n.isValidChar then some (Char.ofNat n) else none

/-- Characters above U+FFFF are two units, a high and a low surrogate. -/
def decodeUtf16? (order : ByteOrder) : List UInt8 → Option (List Char)
  | [] => some []
  | a :: b :: c :: d :: rest =>
    let high := unit order [a, b]
    let low := unit order [c, d]
    if 0xD800 ≤ high ∧ high < 0xDC00 then
      if 0xDC00 ≤ low ∧ low < 0xE000 then do
        let c ← scalar? (0x10000 + (high - 0xD800) * 0x400 + (low - 0xDC00))
        return c :: (← decodeUtf16? order rest)
      else none
    else do
      let first ← scalar? high
      return first :: (← decodeUtf16? order (c :: d :: rest))
  | [a, b] => (scalar? (unit order [a, b])).map ([·])
  | _ => none

def decodeUtf32? (order : ByteOrder) : List UInt8 → Option (List Char)
  | [] => some []
  | a :: b :: c :: d :: rest => do
    let first ← scalar? (unit order [a, b, c, d])
    return first :: (← decodeUtf32? order rest)
  | _ => none

/-- Bytes below 0x80 are characters, others are none. -/
def decodeAscii? (bytes : List UInt8) : Option (List Char) :=
  bytes.mapM fun b => if b < 0x80 then some (Char.ofNat b.toNat) else none

def decodeUtf8? (bytes : List UInt8) : Option (List Char) :=
  let decoded := Utf8.decode bytes
  if decoded.remainder.isEmpty then some decoded.chars else none

/-- The characters that bytes spell in a code for Chinese, Japanese or Korean. -/
def decodeEastAsian? (code : EastAsianCode) (bytes : List Nat) : Option (List Char) :=
  readAll? (match code with
    | .gb2312 => pairwise? gb2312?
    | .gbk => pairwise? gbk?
    | .gb18030 => gb18030?
    | .big5 => pairwise? big5?
    | .windowsBig5 => pairwise? windowsBig5?
    | .hongKong => hongKong?
    | .eucKr => eucKr?
    | .unifiedHangul => pairwise? unifiedHangul?
    | .johab => pairwise? johab?
    | .eucJp => eucJp?
    | .eucJis edition => eucJis? edition
    | .shiftJis => shiftJis?
    | .shiftJis2004 edition => shiftJis2004? edition
    | .windowsJapanese => windowsJapanese?) bytes

/-- The characters that bytes spell, in an encoding that can spell nothing but characters. Without
a mark the least significant byte of a unit comes first. -/
def decodeChars? : Encoding → List UInt8 → Option (List Char)
  | utf8, bytes => decodeUtf8? bytes
  | markedUtf8, 0xEF :: 0xBB :: 0xBF :: bytes => decodeUtf8? bytes
  | markedUtf8, bytes => decodeUtf8? bytes
  | utf16 (some order), bytes => decodeUtf16? order bytes
  | utf16 none, 0xFF :: 0xFE :: bytes => decodeUtf16? .little bytes
  | utf16 none, 0xFE :: 0xFF :: bytes => decodeUtf16? .big bytes
  | utf16 none, bytes => decodeUtf16? .little bytes
  | utf32 (some order), bytes => decodeUtf32? order bytes
  | utf32 none, 0xFF :: 0xFE :: 0 :: 0 :: bytes => decodeUtf32? .little bytes
  | utf32 none, 0 :: 0 :: 0xFE :: 0xFF :: bytes => decodeUtf32? .big bytes
  | utf32 none, bytes => decodeUtf32? .little bytes
  | ascii, bytes => decodeAscii? bytes
  | latin1, bytes => some (bytes.map fun b => Char.ofNat b.toNat)
  | codePage page, bytes => page.decode? bytes
  | eastAsian code, bytes => decodeEastAsian? code (bytes.map UInt8.toNat)
  | hz, bytes => decodeHz? false (bytes.map UInt8.toNat)
  | _, _ => none

/-- A result of which nothing more is known than that there is one. -/
def orIllFormed {α : Type} (result : Option α) : Except DecodeFault α :=
  match result with
  | some a => .ok a
  | none => .error .illFormed

/-- The text that bytes spell. -/
def decode (encoding : Encoding) (bytes : List UInt8) : Except DecodeFault Text :=
  let numbers := bytes.map UInt8.toNat
  match encoding with
  | utf7 => orIllFormed (decodeUtf7? numbers)
  | iso2022 variant => (variant.decodeFrom {} numbers).map Text.ofChars
  | escaped => orIllFormed (decodeEscaped? numbers)
  | rawEscaped => orIllFormed (decodeRawEscaped? numbers)
  | punycode => decodePunycode numbers
  | domainName => decodeDomainName numbers
  | undefined => .error .inadmissible
  | _ => orIllFormed ((decodeChars? encoding bytes).map Text.ofChars)

/-- The name means UTF-8 as it is spelled, capitals and underscores aside. -/
def isPlainUtf8 (name : Text) : Bool :=
  match name.mapM CodePoint.toChar? with
  | some cs =>
    let plain := String.ofList (cs.map fun c => if c = '_' then '-' else c.toLower)
    plain = "utf-8" || plain = "utf8"
  | none => false

end Encoding

end RelaxCompact
