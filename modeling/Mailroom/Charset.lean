import Mailroom.Charset.Chinese
import Mailroom.Charset.Escaped
import Mailroom.Charset.Idna
import Mailroom.Charset.Iso2022
import Mailroom.Charset.Japanese
import Mailroom.Charset.Korean
import Mailroom.Charset.Shifted
import Mailroom.Charset.Table
import Mailroom.Charset.Wide
import Mailroom.Text.Utf8

/-!
# Character sets by name

Encoded words name the character set of their octets. Names differ in case and
punctuation only when they are the same name.

* `Charset.normalName`: the name without those differences;
* `Charset.ofName?`: the character set of a name, if it is known;
* `Charset.decode?`: the text of some octets; an octet that stands for nothing is kept
  as a lone surrogate, unless it is an ASCII octet: then there is no text.
-/

namespace Mailroom

/-- The character sets that octets can be read in. -/
inductive Charset where
  | utf8
  | utf8Marked
  | ascii
  | latin1
  | singleOctet (table : SingleOctetCharset)
  | wide (charset : WideCharset)
  | shifted
  | chinese (charset : ChineseCharset)
  | hz
  | japanese (charset : JapaneseCharset)
  | korean (charset : KoreanCharset)
  | switched (charset : Iso2022Charset)
  | escaped
  | rawEscaped
  | punycode
  | idna
  /-- Nothing but the empty text can be read. -/
  | undefined

namespace Charset

/-- Letters, digits and dots in lower case; every run of other code points between them
is one low line. -/
def normalName (name : Text) : Text :=
  let keep (c : CodePoint) : Bool := c.isAsciiLetter || c.isAsciiDigit || c.val == 0x2E
  let small (c : CodePoint) : CodePoint :=
    if c.isAsciiUpper then CodePoint.ofNat (c.val + 0x20) else c
  let (written, _) := name.foldl (fun (acc : Text × Bool) c =>
    if keep c then
      ((if acc.2 && !acc.1.isEmpty then acc.1 ++ [CodePoint.ofChar '_'] else acc.1) ++ [small c],
        false)
    else (acc.1, true)) ([], false)
  written

/-- The character sets other than those of one octet for each character, under their names
in normal form. -/
def knownCharsets : List (List String × Charset) := [
  (["utf_8", "cp65001", "u8", "utf", "utf8", "utf8_ucs2", "utf8_ucs4"], .utf8),
  (["utf_8_sig"], .utf8Marked),
  (["utf_7", "u7", "unicode_1_1_utf_7", "utf7"], .shifted),
  (["ascii", "646", "ansi_x3.4_1968", "ansi_x3.4_1986", "ansi_x3_4_1968", "cp367", "csascii",
    "ibm367", "iso646_us", "iso_646.irv_1991", "iso_ir_6", "us", "us_ascii"], .ascii),
  (["latin_1", "8859", "cp819", "csisolatin1", "ibm819", "iso8859", "iso8859_1", "iso_8859_1",
    "iso_8859_1_1987", "iso_ir_100", "l1", "latin", "latin1", "charmap"], .latin1),
  (["utf_16", "u16", "utf16"], .wide ⟨.two, none⟩),
  (["utf_16_be", "unicodebigunmarked", "utf_16be"], .wide ⟨.two, some .bigFirst⟩),
  (["utf_16_le", "unicodelittleunmarked", "utf_16le"], .wide ⟨.two, some .littleFirst⟩),
  (["utf_32", "u32", "utf32"], .wide ⟨.four, none⟩),
  (["utf_32_be", "utf_32be"], .wide ⟨.four, some .bigFirst⟩),
  (["utf_32_le", "utf_32le"], .wide ⟨.four, some .littleFirst⟩),
  (["gb2312", "chinese", "csiso58gb231280", "euc_cn", "euccn", "eucgb2312_cn", "gb2312_1980",
    "gb2312_80", "iso_ir_58", "x_mac_simp_chinese"], .chinese .gb2312),
  (["gbk", "936", "cp936", "ms936"], .chinese .gbk),
  (["gb18030", "gb18030_2000"], .chinese .gb18030),
  (["hz", "hz_gb", "hz_gb_2312", "hzgb"], .hz),
  (["big5", "big5_tw", "csbig5", "x_mac_trad_chinese"], .chinese .big5),
  (["big5hkscs", "big5_hkscs", "hkscs"], .chinese .big5HongKong),
  (["cp950", "950", "ms950"], .chinese .windows950),
  (["shift_jis", "csshiftjis", "s_jis", "shiftjis", "sjis", "x_mac_japanese"], .japanese
    .shiftJis),
  (["cp932", "932", "ms932", "ms_kanji", "mskanji"], .japanese .windows932),
  (["shift_jis_2004", "s_jis_2004", "shiftjis2004", "sjis_2004"], .japanese (.shiftJisX0213
    .of2004)),
  (["shift_jisx0213", "s_jisx0213", "shiftjisx0213", "sjisx0213"], .japanese (.shiftJisX0213
    .of2000)),
  (["euc_jp", "eucjp", "u_jis", "ujis"], .japanese .euc),
  (["euc_jis_2004", "euc_jis2004", "eucjis2004", "jisx0213"], .japanese (.eucJisX0213 .of2004)),
  (["euc_jisx0213", "eucjisx0213"], .japanese (.eucJisX0213 .of2000)),
  (["iso2022_jp", "csiso2022jp", "iso2022jp", "iso_2022_jp"], .switched .japanese),
  (["iso2022_jp_1", "iso2022jp_1", "iso_2022_jp_1"], .switched .japanese1),
  (["iso2022_jp_2", "iso2022jp_2", "iso_2022_jp_2"], .switched .japanese2),
  (["iso2022_jp_3", "iso2022jp_3", "iso_2022_jp_3"], .switched .japanese3),
  (["iso2022_jp_2004", "iso2022jp_2004", "iso_2022_jp_2004"], .switched .japanese2004),
  (["iso2022_jp_ext", "iso2022jp_ext", "iso_2022_jp_ext"], .switched .japaneseExtended),
  (["iso2022_kr", "csiso2022kr", "iso2022kr", "iso_2022_kr"], .switched .korean),
  (["euc_kr", "euckr", "korean", "ks_c_5601", "ks_c_5601_1987", "ks_x_1001", "ksc5601",
    "ksx1001", "x_mac_korean"], .korean .euc),
  (["cp949", "949", "ms949", "uhc"], .korean .windows949),
  (["johab", "cp1361", "ms1361"], .korean .johab),
  (["punycode"], .punycode),
  (["idna"], .idna),
  (["unicode_escape"], .escaped),
  (["raw_unicode_escape"], .rawEscaped),
  (["undefined"], .undefined)]

/-- All character sets under their names in normal form. -/
def allCharsets : List (List String × Charset) :=
  knownCharsets ++ singleOctetCharsets.map fun table => (table.names, .singleOctet table)

/-- A name in normal form is one of the names of a character set. The first of these has to
be written without dots; in the others a dot can stand for a low line. -/
def isNamed (names : List String) (normal : Text) : Bool :=
  let undotted := normal.map fun c => if c.val == 0x2E then CodePoint.ofChar '_' else c
  match names with
  | [] => false
  | first :: others =>
    Text.ofString first = normal ||
      others.any fun s => Text.ofString s = normal || Text.ofString s = undotted

/-- The character set of a name, if it is known. -/
def ofName? (name : Text) : Option Charset :=
  (allCharsets.find? fun entry => isNamed entry.1 (normalName name)).map (·.2)

/-- An octet below 128 is its ASCII character, and any other is kept. -/
def decodeAscii (octets : Octets) : Text :=
  octets.map fun b => if b.toNat < 0x80 then CodePoint.ofNat b.toNat else CodePoint.ofOctet b

/-- The octets of UTF-8 after a mark at their beginning. -/
def withoutMark : Octets → Octets
  | 0xEF :: 0xBB :: 0xBF :: rest => rest
  | octets => octets

/-- What an octet of a single-octet character set is read as. An ASCII octet is not kept. -/
def readOctet? (table : SingleOctetCharset) (b : UInt8) : Option CodePoint :=
  (table.lookup? b).or (if b.toNat < 0x80 then none else some (CodePoint.ofOctet b))

/-- The text of some octets, if they can be read in the character set. -/
def decode? : Charset → Octets → Option Text
  | utf8, octets => some (Utf8.decodeKeeping octets)
  | utf8Marked, octets => some (Utf8.decodeKeeping (withoutMark octets))
  | ascii, octets => some (decodeAscii octets)
  | latin1, octets => some (octets.map fun b => CodePoint.ofNat b.toNat)
  | singleOctet table, octets => octets.mapM (readOctet? table)
  | wide charset, octets => charset.decode? octets
  | shifted, octets => Shifted.decode? octets
  | chinese charset, octets => charset.decode? octets
  | hz, octets => Hz.decode? octets
  | japanese charset, octets => charset.decode? octets
  | korean charset, octets => charset.decode? octets
  | switched charset, octets => charset.decode? octets
  | escaped, octets => Escaped.decode? octets
  | rawEscaped, octets => Escaped.decodeRaw? octets
  | punycode, octets => Punycode.decode? octets
  | idna, octets => Idna.decode? octets
  | undefined, octets => if octets.isEmpty then some [] else none

end Charset

end Mailroom
