import ConstrainedDecoding.Text.Charset.Basic
import ConstrainedDecoding.Text.Charset.Macintosh
import ConstrainedDecoding.Text.Charset.Mainframe
import ConstrainedDecoding.Text.Charset.Regional
import ConstrainedDecoding.Text.Charset.Terminal
import ConstrainedDecoding.Text.Charset.Windows

/-!
The names of charsets. Letters count without regard to case, and any run of characters other than
letters, digits and full stops counts as one separator.
-/

namespace ConstrainedDecoding.Text

/-- A charset with its name and its other names. -/
abbrev NamedCharset := String × List String × Charset

/-- The Unicode encoding forms and their oldest parts. -/
def unicodeCharsets : List NamedCharset := [
  ("ascii",
    ["646", "ansi_x3.4_1968", "ansi_x3.4_1986", "ansi_x3_4_1968", "cp367", "csascii", "ibm367",
      "iso646_us", "iso_646.irv_1991", "iso_ir_6", "us", "us_ascii"], .ascii),
  ("latin_1",
    ["8859", "cp819", "csisolatin1", "ibm819", "iso8859", "iso8859_1", "iso_8859_1",
      "iso_8859_1_1987", "iso_ir_100", "l1", "latin", "latin1"], .latin1),
  ("iso8859_1", [], .latin1),
  ("charmap", [], .latin1),
  ("utf_7", ["u7", "unicode_1_1_utf_7", "utf7"], .utf7),
  ("utf_8", ["cp65001", "u8", "utf", "utf8", "utf8_ucs2", "utf8_ucs4"], .utf8),
  ("utf_8_sig", [], .markedUtf8),
  ("utf_16", ["u16", "utf16"], .markedUtf16),
  ("utf_16_be", ["unicodebigunmarked", "utf_16be"], .utf16 true),
  ("utf_16_le", ["unicodelittleunmarked", "utf_16le"], .utf16 false),
  ("utf_32", ["u32", "utf32"], .markedUtf32),
  ("utf_32_be", ["utf_32be"], .utf32 true),
  ("utf_32_le", ["utf_32le"], .utf32 false),
  ("raw_unicode_escape", [], .longEscapes),
  ("unicode_escape", [], .escapes),
  ("punycode", [], .punycode)]

/-- The charsets of East Asia. -/
def eastAsianCharsets : List NamedCharset := [
  ("big5", ["big5_tw", "csbig5", "x_mac_trad_chinese"], .ofPairs traditionalGrid.char?),
  ("big5hkscs", ["big5_hkscs", "hkscs"], .ofPairs traditionalGrid.char?),
  ("cp950", ["950", "ms950"], .ofPairs windowsTraditionalChar?),
  ("gb2312",
    ["chinese", "csiso58gb231280", "euc_cn", "euccn", "eucgb2312_cn", "gb2312_1980", "gb2312_80",
      "iso_ir_58", "x_mac_simp_chinese"], .ofPairs simplifiedChar?),
  ("gbk", ["936", "cp936", "ms936"], .ofPairs extendedChar?),
  ("gb18030", ["gb18030_2000"], .ofPieces frontNational),
  ("hz", ["hz_gb", "hz_gb_2312", "hzgb"], .tilde),
  ("shift_jis",
    ["csshiftjis", "s_jis", "shiftjis", "sjis", "x_mac_japanese"], .ofPieces frontShiftJis),
  ("shift_jis_2004", ["s_jis_2004", "shiftjis2004", "sjis_2004"], .ofPieces frontShiftJis),
  ("shift_jisx0213", ["s_jisx0213", "shiftjisx0213", "sjisx0213"], .ofPieces frontShiftJis),
  ("cp932", ["932", "ms932", "ms_kanji", "mskanji"], .ofPieces frontWindowsShiftJis),
  ("euc_jp", ["eucjp", "u_jis", "ujis"], .ofPieces frontEucJapan),
  ("euc_jis_2004", ["euc_jis2004", "eucjis2004", "jisx0213"], .ofPieces frontEucJapan),
  ("euc_jisx0213", ["eucjisx0213"], .ofPieces frontEucJapan),
  ("iso2022_jp", ["csiso2022jp", "iso2022jp", "iso_2022_jp"], .ofRules japaneseRules),
  ("iso2022_jp_1", ["iso2022jp_1", "iso_2022_jp_1"], .ofRules japaneseRules1),
  ("iso2022_jp_2", ["iso2022jp_2", "iso_2022_jp_2"], .ofRules japaneseRules2),
  ("iso2022_jp_3", ["iso2022jp_3", "iso_2022_jp_3"], .ofRules japaneseRules1),
  ("iso2022_jp_2004", ["iso2022jp_2004", "iso_2022_jp_2004"], .ofRules japaneseRules1),
  ("iso2022_jp_ext", ["iso2022jp_ext", "iso_2022_jp_ext"], .ofRules japaneseRulesExtended),
  ("euc_kr",
    ["euckr", "korean", "ks_c_5601", "ks_c_5601_1987", "ks_x_1001", "ksc5601", "ksx1001",
      "x_mac_korean"], .ofPieces frontEucKorea),
  ("cp949", ["949", "ms949", "uhc"], .ofPieces frontWindowsKorea),
  ("johab", ["cp1361", "ms1361"], .ofPieces frontWindowsKorea),
  ("iso2022_kr", ["csiso2022kr", "iso2022kr", "iso_2022_kr"], .ofRules koreanRules)]

/-- The charsets of the ISO 8859 series and their kin. -/
def internationalCharsets : List NamedCharset := [
  ("iso8859_2",
    ["csisolatin2", "iso_8859_2", "iso_8859_2_1987", "iso_ir_101", "l2", "latin2"], .ofTable
      latin2),
  ("iso8859_3",
    ["csisolatin3", "iso_8859_3", "iso_8859_3_1988", "iso_ir_109", "l3", "latin3"], .ofTable
      latin3),
  ("iso8859_4",
    ["csisolatin4", "iso_8859_4", "iso_8859_4_1988", "iso_ir_110", "l4", "latin4"], .ofTable
      latin4),
  ("iso8859_5",
    ["csisolatincyrillic", "cyrillic", "iso_8859_5", "iso_8859_5_1988", "iso_ir_144"], .ofTable
      latinCyrillic),
  ("iso8859_6",
    ["arabic", "asmo_708", "csisolatinarabic", "ecma_114", "iso_8859_6", "iso_8859_6_1987",
      "iso_ir_127"], .ofTable latinArabic),
  ("iso8859_7",
    ["csisolatingreek", "ecma_118", "elot_928", "greek", "greek8", "iso_8859_7",
      "iso_8859_7_1987", "iso_ir_126"], .ofTable latinGreek),
  ("iso8859_8",
    ["csisolatinhebrew", "hebrew", "iso_8859_8", "iso_8859_8_1988", "iso_ir_138"], .ofTable
      latinHebrew),
  ("iso8859_9",
    ["csisolatin5", "iso_8859_9", "iso_8859_9_1989", "iso_ir_148", "l5", "latin5"], .ofTable
      latin5),
  ("iso8859_10",
    ["csisolatin6", "iso_8859_10", "iso_8859_10_1992", "iso_ir_157", "l6", "latin6"], .ofTable
      latin6),
  ("iso8859_11", ["iso_8859_11", "iso_8859_11_2001", "thai"], .ofTable latinThai),
  ("tis_620",
    ["iso_ir_166", "tis620", "tis_620_0", "tis_620_2529_0", "tis_620_2529_1"], .ofTable thai),
  ("iso8859_13", ["iso_8859_13", "l7", "latin7"], .ofTable latin7),
  ("iso8859_14",
    ["iso_8859_14", "iso_8859_14_1998", "iso_celtic", "iso_ir_199", "l8", "latin8"], .ofTable
      latin8),
  ("iso8859_15", ["iso_8859_15", "l9", "latin9"], .ofTable latin9),
  ("iso8859_16",
    ["iso_8859_16", "iso_8859_16_2001", "iso_ir_226", "l10", "latin10"], .ofTable latin10)]

/-- The code pages of Windows. -/
def windowsCharsets : List NamedCharset := [
  ("cp874", [], .ofTable windows874),
  ("cp1250", ["1250", "windows_1250"], .ofTable windows1250),
  ("cp1251", ["1251", "windows_1251"], .ofTable windows1251),
  ("cp1252", ["1252", "windows_1252"], .ofTable windows1252),
  ("cp1253", ["1253", "windows_1253"], .ofTable windows1253),
  ("cp1254", ["1254", "windows_1254"], .ofTable windows1254),
  ("cp1255", ["1255", "windows_1255"], .ofTable windows1255),
  ("cp1256", ["1256", "windows_1256"], .ofTable windows1256),
  ("cp1257", ["1257", "windows_1257"], .ofTable windows1257),
  ("cp1258", ["1258", "windows_1258"], .ofTable windows1258)]

/-- The code pages of text terminals. -/
def terminalCharsets : List NamedCharset := [
  ("cp437", ["437", "cspc8codepage437", "ibm437"], .ofTable terminal437),
  ("cp720", [], .ofTable terminal720),
  ("cp737", [], .ofTable terminal737),
  ("cp775", ["775", "cspc775baltic", "ibm775"], .ofTable terminal775),
  ("cp850", ["850", "cspc850multilingual", "ibm850"], .ofTable terminal850),
  ("cp852", ["852", "cspcp852", "ibm852"], .ofTable terminal852),
  ("cp855", ["855", "csibm855", "ibm855"], .ofTable terminal855),
  ("cp856", [], .ofTable terminal856),
  ("cp857", ["857", "csibm857", "ibm857"], .ofTable terminal857),
  ("cp858", ["858", "csibm858", "ibm858"], .ofTable terminal858),
  ("cp860", ["860", "csibm860", "ibm860"], .ofTable terminal860),
  ("cp861", ["861", "cp_is", "csibm861", "ibm861"], .ofTable terminal861),
  ("cp862", ["862", "cspc862latinhebrew", "ibm862"], .ofTable terminal862),
  ("cp863", ["863", "csibm863", "ibm863"], .ofTable terminal863),
  ("cp864", ["864", "csibm864", "ibm864"], .ofTable terminal864),
  ("cp865", ["865", "csibm865", "ibm865"], .ofTable terminal865),
  ("cp866", ["866", "csibm866", "ibm866"], .ofTable terminal866),
  ("cp869", ["869", "cp_gr", "csibm869", "ibm869"], .ofTable terminal869),
  ("cp1006", [], .ofTable terminal1006),
  ("cp1125", ["1125", "cp866u", "ibm1125", "ruscii"], .ofTable terminal1125)]

/-- The code pages of mainframes. -/
def mainframeCharsets : List NamedCharset := [
  ("cp037",
    ["037", "csibm037", "ebcdic_cp_ca", "ebcdic_cp_nl", "ebcdic_cp_us", "ebcdic_cp_wt", "ibm037",
      "ibm039"], .ofTable mainframe037),
  ("cp273", ["273", "csibm273", "ibm273"], .ofTable mainframe273),
  ("cp424", ["424", "csibm424", "ebcdic_cp_he", "ibm424"], .ofTable mainframe424),
  ("cp500", ["500", "csibm500", "ebcdic_cp_be", "ebcdic_cp_ch", "ibm500"], .ofTable mainframe500),
  ("cp875", [], .ofTable mainframe875),
  ("cp1026", ["1026", "csibm1026", "ibm1026"], .ofTable mainframe1026),
  ("cp1140", ["1140", "ibm1140"], .ofTable mainframe1140)]

/-- The charsets of the Macintosh and of single regions. -/
def otherCharsets : List NamedCharset := [
  ("mac_roman", ["macintosh", "macroman"], .ofTable macRoman),
  ("mac_latin2", ["mac_centeuro", "maccentraleurope", "maclatin2"], .ofTable macLatin2),
  ("mac_croatian", [], .ofTable macCroatian),
  ("mac_cyrillic", ["maccyrillic"], .ofTable macCyrillic),
  ("mac_greek", ["macgreek"], .ofTable macGreek),
  ("mac_iceland", ["maciceland"], .ofTable macIceland),
  ("mac_romanian", [], .ofTable macRomanian),
  ("mac_turkish", ["macturkish"], .ofTable macTurkish),
  ("mac_arabic", [], .ofTable macArabic),
  ("mac_farsi", [], .ofTable macFarsi),
  ("koi8_r", ["cskoi8r"], .ofTable koi8Russian),
  ("koi8_u", [], .ofTable koi8Ukrainian),
  ("koi8_t", [], .ofTable koi8Tajik),
  ("kz1048", ["kz_1048", "rk1048", "strk1048_2002"], .ofTable kazakh1048),
  ("ptcp154", ["cp154", "csptcp154", "cyrillic_asian", "pt154"], .ofTable asianCyrillic),
  ("hp_roman8", ["cp1051", "ibm1051", "r8", "roman8"], .ofTable roman8),
  ("palmos", [], .ofTable palm)]

/-- Names that do not belong to charsets. -/
def namesakes : List NamedCharset := [
  ("base64_codec", ["base64", "base_64"], .failing .transfer),
  ("bz2_codec", ["bz2"], .failing .transfer),
  ("hex_codec", ["hex"], .failing .transfer),
  ("quopri_codec", ["quopri", "quoted_printable", "quotedprintable"], .failing .transfer),
  ("uu_codec", ["uu"], .failing .transfer),
  ("zlib_codec", ["zip", "zlib"], .failing .transfer),
  ("rot_13", ["rot13"], .failing .cipher),
  ("idna", [], .failing .intolerant),
  ("undefined", [], .failing .intolerant)]

/-- All charsets. -/
def charsets : List NamedCharset :=
  unicodeCharsets ++ eastAsianCharsets ++ internationalCharsets ++ windowsCharsets ++
    terminalCharsets ++ mainframeCharsets ++ otherCharsets ++ namesakes

/-- Whether a character counts as itself in a label. -/
def isLabelChar (c : Char) : Bool := c.isAlphanum || c = '.'

/-- A label in lower case, with one underscore for each run of separators between the parts. A
separator at the front is dropped, and so are those at the end. -/
def cleanLabel (pending : Bool) : List Char → List Char
  | [] => []
  | c :: rest =>
    if isLabelChar c then
      (if pending then ['_', c.toLower] else [c.toLower]) ++ cleanLabel false rest
    else cleanLabel true rest

/-- The name that a label stands for. -/
def charsetName (label : List Char) : String :=
  String.ofList (cleanLabel false (label.dropWhile (!isLabelChar ·)))

/-- The charset of a label. A full stop in a label may stand for the underscore of another name. -/
def charset? (label : List Char) : Option Charset :=
  let name := charsetName label
  let other := String.ofList (name.toList.map fun c => if c = '.' then '_' else c)
  (charsets.find? fun (own, others, _) =>
    own = name || others.contains name || others.contains other).map (·.2.2)

end ConstrainedDecoding.Text
