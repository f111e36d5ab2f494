import Indicator.Text.Charset.Escaped
import Indicator.Text.Charset.Switched
import Indicator.Text.Charset.Table.Dos
import Indicator.Text.Charset.Table.Ebcdic
import Indicator.Text.Charset.Table.Iso
import Indicator.Text.Charset.Table.Mac
import Indicator.Text.Charset.Table.Regional
import Indicator.Text.Charset.Table.Windows
import Indicator.Text.Charset.Utf7
import Indicator.Text.Charset.Wide
import Indicator.Text.Punycode

/-!
# Character sets

The character sets that a text may be declared to be in, by their names. A reading is lenient:
octets that stand for nothing become U+FFFD. Some names belong to something that is no lenient
reading of octets; a text under such a name has no characters.
-/

namespace Indicator.Text

namespace Charset

/-- Why a text under a known name has no characters. -/
inductive Fault
  /-- The name belongs to a conversion of octets to octets. -/
  | octetsOnly
  /-- The name belongs to a conversion of texts to texts. -/
  | textOnly
  /-- The set has no lenient reading. -/
  | strictOnly
  /-- The name is set aside to belong to nothing. -/
  | undefined
  /-- No byte order mark stands before units of so many bits. -/
  | unmarked (bits : Nat)
  | notAscii (octet : UInt8) (position : Nat)
  | stuck (reason : Stuck)
  /-- The name holds a character that no name may hold. -/
  | nulInName
deriving DecidableEq, Repr

def Fault.message : Fault → String
  | octetsOnly => ""
  | textOnly => "descriptor 'translate' for 'str' objects doesn't apply to a 'bytes' object"
  | strictOnly => "Unsupported error handling replace"
  | undefined => "undefined encoding"
  | unmarked bits => "UTF-" ++ toString bits ++ " stream does not start with BOM"
  | notAscii octet position =>
    "'ascii' codec can't decode byte 0x" ++ String.ofList (hexDigits 2 octet.toNat) ++
      " in position " ++ toString position ++ ": ordinal not in range(128)"
  | stuck reason => reason.message
  | nulInName => "embedded null character"

end Charset

/-- A character set: its names and its reading of octets. -/
structure Charset where
  names : List String
  read : List UInt8 → Except Charset.Fault (List Char)

namespace Charset

/-- A set whose reading always succeeds. -/
def plain (names : List String) (read : List UInt8 → List Char) : Charset :=
  ⟨names, fun octets => .ok (read octets)⟩

/-- A set that is read in pieces. -/
def ofPieces (names : List String) (read : List UInt8 → Except Stuck (List Char)) : Charset :=
  ⟨names, fun octets => (read octets).mapError .stuck⟩

/-- A set that is read in pieces without a state. -/
def stateless (names : List String) (read : UInt8 → List UInt8 → Piece Unit) : Charset :=
  ofPieces names (readStateless read)

/-- A set under one of the manners of switching, whose names may be written in several ways. -/
def switched (part : String) (manner : Manner) : Charset :=
  ofPieces ["iso2022_" ++ part, "iso2022" ++ part, "iso_2022_" ++ part] manner.read

/-- A name that belongs to no reading. -/
def without (names : List String) (fault : Fault) : Charset := ⟨names, fun _ => .error fault⟩

def utf8 : Charset :=
  plain ["utf_8", "u8", "utf", "utf8", "utf8_ucs2", "utf8_ucs4", "cp65001"] decodeUtf8Lenient

/-- UTF-8 in which a byte order mark is dropped, also one that is cut short by the end. -/
def readUtf8Marked : List UInt8 → List Char
  | 0xEF :: 0xBB :: 0xBF :: rest => decodeUtf8Lenient rest
  | [0xEF] | [0xEF, 0xBB] => []
  | octets => decodeUtf8Lenient octets

/-- The sets of ASCII and of the code points below 100. -/
def basic : List Charset :=
  [plain ["ascii", "646", "ansi_x3.4_1968", "ansi_x3_4_1968", "ansi_x3.4_1986", "cp367", "csascii",
      "ibm367", "iso646_us", "iso_646.irv_1991", "iso_ir_6", "us", "us_ascii"] (·.map directChar),
    plain ["latin_1", "8859", "cp819", "csisolatin1", "ibm819", "iso8859", "iso8859_1", "iso_8859_1",
      "iso_8859_1_1987", "iso_ir_100", "l1", "latin", "latin1", "charmap"]
      (·.map fun b => charOfCode b.toNat)]

/-- The encodings of all code points. -/
def universal : List Charset :=
  [utf8, plain ["utf_8_sig"] readUtf8Marked,
    plain ["utf_7", "u7", "utf7", "unicode_1_1_utf_7"] (readUtf7 none),
    ⟨["utf_16", "u16", "utf16"], fun octets => (readMarked16 octets).mapError .unmarked⟩,
    plain ["utf_16_be", "unicodebigunmarked", "utf_16be"] (readUnits16 true),
    plain ["utf_16_le", "unicodelittleunmarked", "utf_16le"] (readUnits16 false),
    ⟨["utf_32", "u32", "utf32"], fun octets => (readMarked32 octets).mapError .unmarked⟩,
    plain ["utf_32_be", "utf_32be"] (readUnits32 true),
    plain ["utf_32_le", "utf_32le"] (readUnits32 false),
    stateless ["unicode_escape"] readEscaped, stateless ["raw_unicode_escape"] readRawEscaped,
    ⟨["punycode"], fun octets =>
      (Punycode.decodeLenient octets).mapError fun found => .notAscii found.1 found.2⟩]

/-- The sets of one octet. -/
def singles : List Charset :=
  (dosSets ++ ebcdicSets ++ isoSets ++ macSets ++ regionalSets ++ windowsSets).map fun set =>
    plain set.names set.read

/-- The sets of East Asia. -/
def eastern : List Charset :=
  [stateless ["gb2312", "chinese", "csiso58gb231280", "euc_cn", "euccn", "eucgb2312_cn",
      "gb2312_1980", "gb2312_80", "iso_ir_58", "x_mac_simp_chinese"] readGb2312,
    stateless ["gbk", "936", "cp936", "ms936"] readGbk,
    stateless ["gb18030", "gb18030_2000"] readGb18030,
    ofPieces ["hz", "hzgb", "hz_gb", "hz_gb_2312"] readHz,
    stateless ["big5", "big5_tw", "csbig5", "x_mac_trad_chinese"] readBig5,
    stateless ["cp950", "950", "ms950"] readPage950,
    stateless ["big5hkscs", "big5_hkscs", "hkscs"] readHkscs,
    stateless ["euc_kr", "euckr", "korean", "ksc5601", "ks_c_5601", "ks_c_5601_1987", "ksx1001",
      "ks_x_1001", "x_mac_korean"] readEucKr,
    stateless ["cp949", "949", "ms949", "uhc"] readUnified,
    stateless ["johab", "cp1361", "ms1361"] readJohab,
    ofPieces ["iso2022_kr", "csiso2022kr", "iso2022kr", "iso_2022_kr"] Manner.korean.read,
    stateless ["euc_jp", "eucjp", "ujis", "u_jis"] readEucJp,
    stateless ["euc_jisx0213", "eucjisx0213"] (readEucJisX0213 .first),
    stateless ["euc_jis_2004", "jisx0213", "eucjis2004", "euc_jis2004"] (readEucJisX0213 .second),
    stateless ["shift_jis", "csshiftjis", "shiftjis", "sjis", "s_jis", "x_mac_japanese"] readShiftJis,
    stateless ["cp932", "932", "ms932", "mskanji", "ms_kanji"] readPage932,
    stateless ["shift_jisx0213", "shiftjisx0213", "sjisx0213", "s_jisx0213"]
      (readShiftJisX0213 .first),
    stateless ["shift_jis_2004", "shiftjis2004", "sjis_2004", "s_jis_2004"]
      (readShiftJisX0213 .second),
    ofPieces ["iso2022_jp", "csiso2022jp", "iso2022jp", "iso_2022_jp"] Manner.japanese.read,
    switched "jp_1" .japanese1, switched "jp_2" .japanese2, switched "jp_3" .japanese3,
    switched "jp_2004" .japanese2004, switched "jp_ext" .japaneseExtended]

/-- The names that belong to no lenient reading of octets. -/
def unreadable : List Charset :=
  [without ["base64_codec", "base64", "base_64"] .octetsOnly,
    without ["bz2_codec", "bz2"] .octetsOnly, without ["hex_codec", "hex"] .octetsOnly,
    without ["quopri_codec", "quopri", "quoted_printable", "quotedprintable"] .octetsOnly,
    without ["uu_codec", "uu"] .octetsOnly, without ["zlib_codec", "zip", "zlib"] .octetsOnly,
    without ["rot_13", "rot13"] .textOnly, without ["idna"] .strictOnly,
    without ["undefined"] .undefined]

def all : List Charset := basic ++ universal ++ singles ++ eastern ++ unreadable

/-- A name in lower case, with an underscore for each run of other characters than letters, digits
and dots between two of these. -/
def normalName (name : String) : String :=
  let isPlain (c : Char) := c.isAlphanum || c = '.'
  let spaced := name.toList.map fun c => if isPlain c then c.toLower else ' '
  "_".intercalate (((String.ofList spaced).splitOn " ").filter (· ≠ ""))

/-- The set of a name. The dots of a name may stand for underscores, but only in a further name of
a set. -/
def find? (name : String) : Option Charset :=
  let name := normalName name
  let undotted := String.ofList (name.toList.map fun c => if c = '.' then '_' else c)
  (all.find? (·.names.contains name)).or (all.find? fun set => (set.names.drop 1).contains undotted)

/-- The characters of octets that are declared to be in a set. One that is not known counts as
UTF-8, and no octets are no characters in any set. -/
def decode (name : String) (octets : List UInt8) : Except Fault (List Char) :=
  if octets.isEmpty then .ok []
  else if name.toList.contains '\x00' then .error .nulInName
  else ((find? name).getD utf8).read octets

end Charset

end Indicator.Text
