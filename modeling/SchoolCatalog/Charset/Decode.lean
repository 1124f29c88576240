import SchoolCatalog.Charset.CodePage.Dos
import SchoolCatalog.Charset.CodePage.Ebcdic
import SchoolCatalog.Charset.CodePage.Iso
import SchoolCatalog.Charset.CodePage.Macintosh
import SchoolCatalog.Charset.CodePage.Windows
import SchoolCatalog.Charset.DoubleByte.Chinese
import SchoolCatalog.Charset.DoubleByte.Japanese
import SchoolCatalog.Charset.DoubleByte.Korean
import SchoolCatalog.Charset.Escape
import SchoolCatalog.Charset.Name
import SchoolCatalog.Charset.Punycode
import SchoolCatalog.Charset.Utf7
import SchoolCatalog.Text.Wording

/-!
# Character sets by name

Bytes are read in the character set that a name stands for. Bytes that it has no text for, and bytes
in a character set that is not known, read as Latin-1.

Main statement: `decode_of_unknown`.
-/

namespace SchoolCatalog.Charset

/-- How bytes stand for a text. -/
inductive Scheme where
  | utf8
  | markedUtf8
  | utf7
  | punycode
  | utf16 (bigEndian : Option Bool)
  | utf32 (bigEndian : Option Bool)
  | escaped (raw : Bool)
  | page (page : CodePage)
  | grouped (read? : DoubleByte.CharReader)
  | undefined

/-- The character sets that are no code pages: their names and their schemes. -/
def schemes : List (String × List String × Scheme) := [
  ("utf_8", ["u8", "utf", "utf8", "utf8_ucs2", "utf8_ucs4", "cp65001"], .utf8),
  ("utf_8_sig", [], .markedUtf8),
  ("utf_7", ["u7", "utf7", "unicode_1_1_utf_7"], .utf7),
  ("punycode", [], .punycode),
  ("utf_16", ["u16", "utf16"], .utf16 none),
  ("utf_16_be", ["unicodebigunmarked", "utf_16be"], .utf16 (some true)),
  ("utf_16_le", ["unicodelittleunmarked", "utf_16le"], .utf16 (some false)),
  ("utf_32", ["u32", "utf32"], .utf32 none),
  ("utf_32_be", ["utf_32be"], .utf32 (some true)),
  ("utf_32_le", ["utf_32le"], .utf32 (some false)),
  ("unicode_escape", [], .escaped false),
  ("raw_unicode_escape", [], .escaped true),
  ("shift_jis", ["csshiftjis", "shiftjis", "sjis", "s_jis", "x_mac_japanese"],
    .grouped DoubleByte.shiftJis),
  ("cp932", ["932", "ms932", "mskanji", "ms_kanji"], .grouped DoubleByte.page932),
  ("euc_jp", ["eucjp", "ujis", "u_jis"], .grouped DoubleByte.eucJapanese),
  ("gb2312", ["chinese", "csiso58gb231280", "euc_cn", "euccn", "eucgb2312_cn",
    "gb2312_1980", "gb2312_80", "iso_ir_58", "x_mac_simp_chinese"], .grouped DoubleByte.guobiao),
  ("gbk", ["936", "cp936", "ms936"], .grouped DoubleByte.gbk),
  ("gb18030", ["gb18030_2000"], .grouped DoubleByte.gb18030),
  ("big5", ["big5_tw", "csbig5", "x_mac_trad_chinese"], .grouped DoubleByte.bigFive),
  ("cp950", ["950", "ms950"], .grouped DoubleByte.page950),
  ("euc_kr", ["euckr", "korean", "ksc5601", "ks_c_5601", "ks_c_5601_1987",
    "ksx1001", "ks_x_1001", "x_mac_korean"], .grouped DoubleByte.eucKorean),
  ("cp949", ["949", "ms949", "uhc"], .grouped DoubleByte.page949),
  ("undefined", [], .undefined)]

def pages : List CodePage :=
  CodePage.isoPages ++ CodePage.windowsPages ++ CodePage.dosPages ++ CodePage.macintoshPages ++
    CodePage.ebcdicPages

/-- The scheme that a name stands for. -/
def scheme? (name : String) : Option Scheme :=
  byName? (schemes ++ pages.map fun p => (p.name, p.aliases, .page p)) (plainName name)

/-- The order of bytes that a mark in front tells, and the bytes after it; without a mark the least
significant byte is first. -/
def readMark (mark bytes : Bytes) : Bool × Bytes :=
  if mark.isPrefixOf bytes then (true, bytes.drop mark.length)
  else if mark.reverse.isPrefixOf bytes then (false, bytes.drop mark.length)
  else (false, bytes)

/-- The text of code points, of which none may be a half of a pair. -/
def textOfPoints? (points : List Nat) : Option Wording :=
  (Wording.ofPoints points).text.toOption.map .proper

/-- The text of bytes in a scheme, if they have one. Where halves of pairs can be written one by one,
the text may be broken. -/
def Scheme.decode? (scheme : Scheme) (bytes : Bytes) : Option Wording :=
  match scheme with
  | utf8 => (Bytes.toText? bytes).map .proper
  | markedUtf8 =>
    let mark : Bytes := [0xEF, 0xBB, 0xBF]
    (Bytes.toText? (if mark.isPrefixOf bytes then bytes.drop mark.length else bytes)).map .proper
  | punycode =>
    if bytes.all fun b => b.toNat < 0x80 then (Punycode.points? bytes).map .ofPoints else none
  | utf7 => (Utf7.points? bytes).map .ofPoints
  | utf16 order =>
    let (bigEndian, bytes) := (order.map (·, bytes)).getD (readMark [0xFE, 0xFF] bytes)
    (Bytes.points16? bigEndian bytes).bind textOfPoints?
  | utf32 order =>
    let (bigEndian, bytes) := (order.map (·, bytes)).getD (readMark [0, 0, 0xFE, 0xFF] bytes)
    (Bytes.points32? bigEndian bytes).bind textOfPoints?
  | escaped raw => (Escape.points? raw bytes).map .ofPoints
  | page p => (p.decode? bytes).map .proper
  | grouped read? => (DoubleByte.readAll? read? bytes).map fun s => .proper (String.ofList s)
  | undefined => none

/-- Whether bytes that have no text in a scheme are a fault. -/
def Scheme.isStrict (scheme : Scheme) (bytes : Bytes) : Bool :=
  match scheme with
  | punycode => bytes.all fun b => b.toNat < 0x80
  | undefined => true
  | _ => false

/-- Nothing can be read: a NUL is in the name, or the character set is a strict one. -/
inductive Fault where
  | unusable

/-- The text of bytes in the character set of a name. -/
def decode (name : String) (bytes : Bytes) : Except Fault Wording :=
  if name.toList.contains '\x00' then .error .unusable
  else if bytes.isEmpty then .ok (.proper "")
  else match scheme? name with
    | none => .ok (.proper (Bytes.toLatin1 bytes))
    | some scheme => match scheme.decode? bytes with
      | some w => .ok w
      | none =>
        if scheme.isStrict bytes then .error .unusable else .ok (.proper (Bytes.toLatin1 bytes))

/-- In an unknown character set each byte is a character. -/
theorem decode_of_unknown {name : String} (hn : name.toList.contains '\x00' = false)
    (hf : (scheme? name).isNone) (bytes : Bytes) :
    decode name bytes = .ok (.proper (Bytes.toLatin1 bytes)) := by
  unfold decode
  rw [if_neg (by rw [hn]; simp)]
  split
  · next h => simp [List.isEmpty_iff.mp h, Bytes.toLatin1]
  · simp_all

end SchoolCatalog.Charset
