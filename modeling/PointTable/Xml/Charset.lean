import PointTable.Text.CodePage

/-!
# Charsets

The encodings that a document may name. Only UTF-8 by its own name is read as such. Every other
encoding that can be read has one character per octet and agrees with ASCII on the characters of
markup; under any other name UTF-8 too is read octet by octet, which leaves ASCII.
-/

namespace PointTable.Xml

open Text

/-- How the octets of a document become characters, or why they cannot. -/
inductive Charset where
  | utf8
  /-- Octets beyond ASCII have no character. -/
  | ascii
  /-- The tilde has no character either. -/
  | asciiWithoutTilde
  /-- Every octet is the character of its number. -/
  | latin1
  /-- The characters of the upper octets, row by row. -/
  | page (rows : List String)
  /-- Characters of two octets at least, which a document that can be read so far does not have. -/
  | doubleOctet
  /-- One octet per character, but markup is spelled in other octets. -/
  | unreadable
  /-- Several octets may make one character. -/
  | wide
  /-- The name is not that of an encoding of text. -/
  | notText
  /-- Octets cannot be decoded with replacements. -/
  | failing (reason : String)
  /-- Octets beyond ASCII cannot be decoded. -/
  | undecodable
  deriving DecidableEq, Repr

namespace Charset

/-- A charset with its names. A name may be spelled with points for underscores unless it is one of
the `names`. -/
structure Entry where
  charset : Charset
  names : List String
  aliases : List String

/-- The charsets that are known besides the standard ones. -/
def table : List Entry := [
  ⟨.unreadable,
    ["cp037", "cp1026", "cp1140", "cp273", "cp424", "cp500", "cp864", "cp875", "mac_arabic",
      "mac_farsi"],
    ["csibm037", "ebcdic_cp_ca", "ebcdic_cp_nl", "ebcdic_cp_us", "ebcdic_cp_wt", "ibm037",
      "ibm039", "csibm1026", "ibm1026", "ibm1140", "csibm273", "ibm273", "csibm424",
      "ebcdic_cp_he", "ibm424", "csibm500", "ebcdic_cp_be", "ebcdic_cp_ch", "ibm500", "csibm864",
      "ibm864"]⟩,
  ⟨.page CodePage.cp1125, ["cp1125"], ["cp866u", "ibm1125", "ruscii"]⟩,
  ⟨.page CodePage.cp1250, ["cp1250"], ["windows_1250"]⟩,
  ⟨.page CodePage.cp1251, ["cp1251"], ["windows_1251"]⟩,
  ⟨.page CodePage.cp1252, ["cp1252"], ["windows_1252"]⟩,
  ⟨.page CodePage.cp1253, ["cp1253"], ["windows_1253"]⟩,
  ⟨.page CodePage.cp1254, ["cp1254"], ["windows_1254"]⟩,
  ⟨.page CodePage.cp1255, ["cp1255"], ["windows_1255"]⟩,
  ⟨.page CodePage.cp1256, ["cp1256"], ["windows_1256"]⟩,
  ⟨.page CodePage.cp1257, ["cp1257"], ["windows_1257"]⟩,
  ⟨.page CodePage.cp1258, ["cp1258"], ["windows_1258"]⟩,
  ⟨.page CodePage.cp437, ["cp437"], ["cspc8codepage437", "ibm437"]⟩,
  ⟨.ascii,
    ["ascii", "iso2022_jp", "iso2022_jp_1", "iso2022_jp_2", "iso2022_jp_2004", "iso2022_jp_3",
      "iso2022_jp_ext", "utf_8", "utf_8_sig"],
    ["ansi_x3.4_1968", "ansi_x3.4_1986", "ansi_x3_4_1968", "cp367", "cp65001", "csascii",
      "csiso2022jp", "ibm367", "iso2022jp", "iso2022jp_1", "iso2022jp_2", "iso2022jp_2004",
      "iso2022jp_3", "iso2022jp_ext", "iso646_us", "iso_2022_jp", "iso_2022_jp_1",
      "iso_2022_jp_2", "iso_2022_jp_2004", "iso_2022_jp_3", "iso_2022_jp_ext",
      "iso_646.irv_1991", "iso_ir_6", "u8", "us", "us_ascii", "utf", "utf8", "utf8_ucs2",
      "utf8_ucs4"]⟩,
  ⟨.page CodePage.cp775, ["cp775"], ["cspc775baltic", "ibm775"]⟩,
  ⟨.page CodePage.cp850, ["cp850"], ["cspc850multilingual", "ibm850"]⟩,
  ⟨.page CodePage.cp852, ["cp852"], ["cspcp852", "ibm852"]⟩,
  ⟨.page CodePage.cp855, ["cp855"], ["csibm855", "ibm855"]⟩,
  ⟨.page CodePage.cp857, ["cp857"], ["csibm857", "ibm857"]⟩,
  ⟨.page CodePage.cp858, ["cp858"], ["csibm858", "ibm858"]⟩,
  ⟨.page CodePage.cp860, ["cp860"], ["csibm860", "ibm860"]⟩,
  ⟨.page CodePage.cp861, ["cp861"], ["cp_is", "csibm861", "ibm861"]⟩,
  ⟨.page CodePage.cp862, ["cp862"], ["cspc862latinhebrew", "ibm862"]⟩,
  ⟨.page CodePage.cp863, ["cp863"], ["csibm863", "ibm863"]⟩,
  ⟨.page CodePage.cp865, ["cp865"], ["csibm865", "ibm865"]⟩,
  ⟨.page CodePage.cp866, ["cp866"], ["csibm866", "ibm866"]⟩,
  ⟨.page CodePage.cp869, ["cp869"], ["cp_gr", "csibm869", "ibm869"]⟩,
  ⟨.latin1,
    ["charmap", "latin_1", "raw_unicode_escape", "unicode_escape"],
    ["cp819", "csisolatin1", "ibm819", "iso8859", "iso8859_1", "iso_8859_1", "iso_8859_1_1987",
      "iso_ir_100", "l1", "latin", "latin1"]⟩,
  ⟨.wide,
    ["big5", "big5hkscs", "cp932", "cp949", "cp950", "euc_jis_2004", "euc_jisx0213", "euc_jp",
      "euc_kr", "gb18030", "gb2312", "gbk", "iso2022_kr", "johab", "shift_jis", "shift_jis_2004",
      "shift_jisx0213", "utf_16", "utf_16_be", "utf_16_le", "utf_32", "utf_32_be", "utf_32_le",
      "utf_7"],
    ["big5_hkscs", "big5_tw", "chinese", "cp1361", "cp936", "csbig5", "csiso2022kr",
      "csiso58gb231280", "csshiftjis", "euc_cn", "euc_jis2004", "euccn", "eucgb2312_cn",
      "eucjis2004", "eucjisx0213", "eucjp", "euckr", "gb18030_2000", "gb2312_1980", "gb2312_80",
      "hkscs", "iso2022kr", "iso_2022_kr", "iso_ir_58", "jisx0213", "korean", "ks_c_5601",
      "ks_c_5601_1987", "ks_x_1001", "ksc5601", "ksx1001", "ms1361", "ms932", "ms936", "ms949",
      "ms950", "ms_kanji", "mskanji", "s_jis", "s_jis_2004", "s_jisx0213", "shiftjis",
      "shiftjis2004", "shiftjisx0213", "sjis", "sjis_2004", "sjisx0213", "u16", "u32", "u7",
      "u_jis", "uhc", "ujis", "unicode_1_1_utf_7", "unicodebigunmarked", "unicodelittleunmarked",
      "utf16", "utf32", "utf7", "utf_16be", "utf_16le", "utf_32be", "utf_32le", "x_mac_japanese",
      "x_mac_korean", "x_mac_simp_chinese", "x_mac_trad_chinese"]⟩,
  ⟨.page CodePage.iso88596,
    ["iso8859_6"],
    ["arabic", "asmo_708", "csisolatinarabic", "ecma_114", "iso_8859_6", "iso_8859_6_1987",
      "iso_ir_127"]⟩,
  ⟨.notText,
    ["base64_codec", "bz2_codec", "hex_codec", "quopri_codec", "rot_13", "uu_codec",
      "zlib_codec"],
    ["base64", "base_64", "bz2", "hex", "quopri", "quoted_printable", "quotedprintable", "rot13",
      "uu", "zip", "zlib"]⟩,
  ⟨.page CodePage.cp1006, ["cp1006"], []⟩,
  ⟨.page CodePage.hpRoman8, ["hp_roman8"], ["cp1051", "ibm1051", "r8", "roman8"]⟩,
  ⟨.page CodePage.ptcp154, ["ptcp154"], ["cp154", "csptcp154", "cyrillic_asian", "pt154"]⟩,
  ⟨.page CodePage.cp720, ["cp720"], []⟩,
  ⟨.page CodePage.cp737, ["cp737"], []⟩,
  ⟨.page CodePage.cp856, ["cp856"], []⟩,
  ⟨.page CodePage.cp874, ["cp874"], []⟩,
  ⟨.page CodePage.iso88592,
    ["iso8859_2"],
    ["csisolatin2", "iso_8859_2", "iso_8859_2_1987", "iso_ir_101", "l2", "latin2"]⟩,
  ⟨.page CodePage.iso88593,
    ["iso8859_3"],
    ["csisolatin3", "iso_8859_3", "iso_8859_3_1988", "iso_ir_109", "l3", "latin3"]⟩,
  ⟨.page CodePage.iso88594,
    ["iso8859_4"],
    ["csisolatin4", "iso_8859_4", "iso_8859_4_1988", "iso_ir_110", "l4", "latin4"]⟩,
  ⟨.page CodePage.iso88599,
    ["iso8859_9"],
    ["csisolatin5", "iso_8859_9", "iso_8859_9_1989", "iso_ir_148", "l5", "latin5"]⟩,
  ⟨.page CodePage.iso885910,
    ["iso8859_10"],
    ["csisolatin6", "iso_8859_10", "iso_8859_10_1992", "iso_ir_157", "l6", "latin6"]⟩,
  ⟨.page CodePage.iso88595,
    ["iso8859_5"],
    ["csisolatincyrillic", "cyrillic", "iso_8859_5", "iso_8859_5_1988", "iso_ir_144"]⟩,
  ⟨.page CodePage.iso88597,
    ["iso8859_7"],
    ["csisolatingreek", "ecma_118", "elot_928", "greek", "greek8", "iso_8859_7",
      "iso_8859_7_1987", "iso_ir_126"]⟩,
  ⟨.page CodePage.iso88598,
    ["iso8859_8"],
    ["csisolatinhebrew", "hebrew", "iso_8859_8", "iso_8859_8_1988", "iso_ir_138"]⟩,
  ⟨.page CodePage.koi8R, ["koi8_r"], ["cskoi8r"]⟩,
  ⟨.asciiWithoutTilde, ["hz"], ["hz_gb", "hz_gb_2312", "hzgb"]⟩,
  ⟨.failing "Unsupported error handling replace", ["idna"], []⟩,
  ⟨.page CodePage.iso885911, ["iso8859_11"], ["iso_8859_11", "iso_8859_11_2001", "thai"]⟩,
  ⟨.page CodePage.iso885913, ["iso8859_13"], ["iso_8859_13", "l7", "latin7"]⟩,
  ⟨.page CodePage.iso885914,
    ["iso8859_14"],
    ["iso_8859_14", "iso_8859_14_1998", "iso_celtic", "iso_ir_199", "l8", "latin8"]⟩,
  ⟨.page CodePage.iso885915, ["iso8859_15"], ["iso_8859_15", "l9", "latin9"]⟩,
  ⟨.page CodePage.iso885916,
    ["iso8859_16"],
    ["iso_8859_16", "iso_8859_16_2001", "iso_ir_226", "l10", "latin10"]⟩,
  ⟨.page CodePage.tis620,
    ["tis_620"],
    ["iso_ir_166", "tis620", "tis_620_0", "tis_620_2529_0", "tis_620_2529_1"]⟩,
  ⟨.page CodePage.koi8T, ["koi8_t"], []⟩,
  ⟨.page CodePage.koi8U, ["koi8_u"], []⟩,
  ⟨.page CodePage.kz1048, ["kz1048"], ["kz_1048", "rk1048", "strk1048_2002"]⟩,
  ⟨.page CodePage.macLatin2, ["mac_latin2"], ["mac_centeuro", "maccentraleurope", "maclatin2"]⟩,
  ⟨.page CodePage.macCroatian, ["mac_croatian"], []⟩,
  ⟨.page CodePage.macCyrillic, ["mac_cyrillic"], ["maccyrillic"]⟩,
  ⟨.page CodePage.macGreek, ["mac_greek"], ["macgreek"]⟩,
  ⟨.page CodePage.macIceland, ["mac_iceland"], ["maciceland"]⟩,
  ⟨.page CodePage.macRoman, ["mac_roman"], ["macintosh", "macroman"]⟩,
  ⟨.page CodePage.macRomanian, ["mac_romanian"], []⟩,
  ⟨.page CodePage.macTurkish, ["mac_turkish"], ["macturkish"]⟩,
  ⟨.page CodePage.palmos, ["palmos"], []⟩,
  ⟨.undecodable, ["punycode"], []⟩,
  ⟨.failing "undefined encoding", ["undefined"], []⟩]

/-- The charsets that a document names in the standard way. -/
def standard : List (String × Charset) := [
  ("utf-8", .utf8), ("iso-8859-1", .latin1), ("us-ascii", .ascii), ("utf-16", .doubleOctet),
  ("utf-16be", .doubleOctet), ("utf-16le", .doubleOctet)]

/-- A letter, a digit or a point. -/
def isNameMark (c : Char) : Bool :=
  c.isAlphanum || c = '.'

/-- A name in small letters, with one underscore for every run of other characters inside. `gap`
says that such a run stands before. -/
def normalized (gap : Bool) : List Char → List Char
  | [] => []
  | c :: rest =>
    if isNameMark c then
      (if gap then ['_', c.toLower] else [c.toLower]) ++ normalized false rest
    else normalized true rest

/-- The normal form of a name. -/
def normalName (name : String) : String :=
  String.ofList (normalized false (name.toList.dropWhile (!isNameMark ·)))

/-- A name with underscores for points. -/
def withoutPoints (name : String) : String :=
  String.ofList (name.toList.map fun c => if c = '.' then '_' else c)

/-- The entry goes by a name in normal form. -/
def Entry.matches (entry : Entry) (name : String) : Bool :=
  entry.aliases.contains name || entry.aliases.contains (withoutPoints name)
    || entry.names.contains name

/-- The charset of a name. -/
def ofName? (name : String) : Option Charset :=
  match standard.lookup name.toLower with
  | some charset => some charset
  | none => (table.find? (·.matches (normalName name))).map Entry.charset

end Charset

end PointTable.Xml
