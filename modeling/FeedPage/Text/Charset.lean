-- SUMMARY: Character sets by label, and reading bytes in them.
import FeedPage.Text.Charset.Switched
import FeedPage.Text.Charset.Unicode

/-!
# Character sets

A document names its character set by a label. Labels are compared in lower case, with every run of
characters other than letters, digits and points as one underscore; a set has several labels.
Reading is strict: bytes that the set gives no character make it fail as a whole, and so does a
label of no known set.
-/

namespace FeedPage.Text

/-- A character set. -/
inductive Charset where
  | utf8
  /-- UTF-8 whose byte-order mark, if there is one, is dropped. -/
  | utf8Marked
  | utf7
  /-- UTF-16 with a fixed byte order. -/
  | utf16 (big : Bool)
  /-- UTF-16 whose byte-order mark tells the order, little-endian without one. -/
  | utf16Marked
  /-- UTF-32 with a fixed byte order. -/
  | utf32 (big : Bool)
  /-- UTF-32 whose byte-order mark tells the order, little-endian without one. -/
  | utf32Marked
  /-- Bytes as characters, with backslash escapes. -/
  | escaped
  /-- Bytes as characters, with escapes of code points only. -/
  | codeEscaped
  | punycode
  /-- Domain names. -/
  | domain
  | simplifiedChinese
  | chinese (fourBytes : Bool)
  /-- The simplified Chinese set that a tilde switches. -/
  | tildeChinese
  | traditionalChinese
  /-- The traditional Chinese set of a vendor. -/
  | taiwanese
  /-- The traditional Chinese set of Hong Kong. -/
  | hongKong
  | shiftedJapanese
  /-- The shifted Japanese set of a vendor. -/
  | windowsJapanese
  | japanese
  /-- The Japanese set with two planes, in its first or second edition. -/
  | extendedJapanese (second : Bool)
  /-- The Japanese set with two planes, in shifted places. -/
  | shiftedExtended (second : Bool)
  | korean
  /-- The Korean set of a vendor. -/
  | windowsKorean
  /-- The Korean set in which syllables are combined of their letters. -/
  | combinedKorean
  /-- A set that escape sequences switch. -/
  | switched (set : Charset.Switched)
  /-- A single-byte set, by name. -/
  | single (name : String)
  deriving DecidableEq, Repr

namespace Charset

/-! ## Labels -/

/-- The labels of all sets: a label, then the set's name. -/
def labelSource : List String :=
  ["037 cp037 1026 cp1026 1125 cp1125 1140 cp1140 1250 cp1250 1251 cp1251 1252 cp1252",
   "1253 cp1253 1254 cp1254 1255 cp1255 1256 cp1256 1257 cp1257 1258 cp1258 273 cp273 424 cp424",
   "437 cp437 500 cp500 646 ascii 775 cp775 850 cp850 852 cp852 855 cp855 857 cp857 858 cp858",
   "860 cp860 861 cp861 862 cp862 863 cp863 864 cp864 865 cp865 866 cp866 869 cp869 8859 latin_1",
   "932 cp932 936 gbk 949 cp949 950 cp950 ansi_x3.4_1968 ascii ansi_x3.4_1986 ascii",
   "ansi_x3_4_1968 ascii arabic iso8859_6 ascii ascii asmo_708 iso8859_6 big5 big5",
   "big5_hkscs big5hkscs big5_tw big5 big5hkscs big5hkscs charmap latin_1 chinese gb2312",
   "cp037 cp037 cp1006 cp1006 cp1026 cp1026 cp1051 hp_roman8 cp1125 cp1125 cp1140 cp1140",
   "cp1250 cp1250 cp1251 cp1251 cp1252 cp1252 cp1253 cp1253 cp1254 cp1254 cp1255 cp1255",
   "cp1256 cp1256 cp1257 cp1257 cp1258 cp1258 cp1361 johab cp154 ptcp154 cp273 cp273 cp367 ascii",
   "cp424 cp424 cp437 cp437 cp500 cp500 cp65001 utf_8 cp720 cp720 cp737 cp737 cp775 cp775",
   "cp819 latin_1 cp850 cp850 cp852 cp852 cp855 cp855 cp856 cp856 cp857 cp857 cp858 cp858",
   "cp860 cp860 cp861 cp861 cp862 cp862 cp863 cp863 cp864 cp864 cp865 cp865 cp866 cp866",
   "cp866u cp1125 cp869 cp869 cp874 cp874 cp875 cp875 cp932 cp932 cp936 gbk cp949 cp949",
   "cp950 cp950 cp_gr cp869 cp_is cp861 csascii ascii csbig5 big5 csibm037 cp037",
   "csibm1026 cp1026 csibm273 cp273 csibm424 cp424 csibm500 cp500 csibm855 cp855 csibm857 cp857",
   "csibm858 cp858 csibm860 cp860 csibm861 cp861 csibm863 cp863 csibm864 cp864 csibm865 cp865",
   "csibm866 cp866 csibm869 cp869 csiso2022jp iso2022_jp csiso2022kr iso2022_kr",
   "csiso58gb231280 gb2312 csisolatin1 latin_1 csisolatin2 iso8859_2 csisolatin3 iso8859_3",
   "csisolatin4 iso8859_4 csisolatin5 iso8859_9 csisolatin6 iso8859_10",
   "csisolatinarabic iso8859_6 csisolatincyrillic iso8859_5 csisolatingreek iso8859_7",
   "csisolatinhebrew iso8859_8 cskoi8r koi8_r cspc775baltic cp775 cspc850multilingual cp850",
   "cspc862latinhebrew cp862 cspc8codepage437 cp437 cspcp852 cp852 csptcp154 ptcp154",
   "csshiftjis shift_jis cyrillic iso8859_5 cyrillic_asian ptcp154 ebcdic_cp_be cp500",
   "ebcdic_cp_ca cp037 ebcdic_cp_ch cp500 ebcdic_cp_he cp424 ebcdic_cp_nl cp037",
   "ebcdic_cp_us cp037 ebcdic_cp_wt cp037 ecma_114 iso8859_6 ecma_118 iso8859_7",
   "elot_928 iso8859_7 euc_cn gb2312 euc_jis2004 euc_jis_2004 euc_jis_2004 euc_jis_2004",
   "euc_jisx0213 euc_jisx0213 euc_jp euc_jp euc_kr euc_kr euccn gb2312 eucgb2312_cn gb2312",
   "eucjis2004 euc_jis_2004 eucjisx0213 euc_jisx0213 eucjp euc_jp euckr euc_kr gb18030 gb18030",
   "gb18030_2000 gb18030 gb2312 gb2312 gb2312_1980 gb2312 gb2312_80 gb2312 gbk gbk",
   "greek iso8859_7 greek8 iso8859_7 hebrew iso8859_8 hkscs big5hkscs hp_roman8 hp_roman8 hz hz",
   "hz_gb hz hz_gb_2312 hz hzgb hz ibm037 cp037 ibm039 cp037 ibm1026 cp1026 ibm1051 hp_roman8",
   "ibm1125 cp1125 ibm1140 cp1140 ibm273 cp273 ibm367 ascii ibm424 cp424 ibm437 cp437",
   "ibm500 cp500 ibm775 cp775 ibm819 latin_1 ibm850 cp850 ibm852 cp852 ibm855 cp855 ibm857 cp857",
   "ibm858 cp858 ibm860 cp860 ibm861 cp861 ibm862 cp862 ibm863 cp863 ibm864 cp864 ibm865 cp865",
   "ibm866 cp866 ibm869 cp869 idna idna iso2022_jp iso2022_jp iso2022_jp_1 iso2022_jp_1",
   "iso2022_jp_2 iso2022_jp_2 iso2022_jp_2004 iso2022_jp_2004 iso2022_jp_3 iso2022_jp_3",
   "iso2022_jp_ext iso2022_jp_ext iso2022_kr iso2022_kr iso2022jp iso2022_jp",
   "iso2022jp_1 iso2022_jp_1 iso2022jp_2 iso2022_jp_2 iso2022jp_2004 iso2022_jp_2004",
   "iso2022jp_3 iso2022_jp_3 iso2022jp_ext iso2022_jp_ext iso2022kr iso2022_kr iso646_us ascii",
   "iso8859 latin_1 iso8859_1 latin_1 iso8859_10 iso8859_10 iso8859_11 iso8859_11",
   "iso8859_13 iso8859_13 iso8859_14 iso8859_14 iso8859_15 iso8859_15 iso8859_16 iso8859_16",
   "iso8859_2 iso8859_2 iso8859_3 iso8859_3 iso8859_4 iso8859_4 iso8859_5 iso8859_5",
   "iso8859_6 iso8859_6 iso8859_7 iso8859_7 iso8859_8 iso8859_8 iso8859_9 iso8859_9",
   "iso_2022_jp iso2022_jp iso_2022_jp_1 iso2022_jp_1 iso_2022_jp_2 iso2022_jp_2",
   "iso_2022_jp_2004 iso2022_jp_2004 iso_2022_jp_3 iso2022_jp_3 iso_2022_jp_ext iso2022_jp_ext",
   "iso_2022_kr iso2022_kr iso_646.irv_1991 ascii iso_8859_1 latin_1 iso_8859_10 iso8859_10",
   "iso_8859_10_1992 iso8859_10 iso_8859_11 iso8859_11 iso_8859_11_2001 iso8859_11",
   "iso_8859_13 iso8859_13 iso_8859_14 iso8859_14 iso_8859_14_1998 iso8859_14",
   "iso_8859_15 iso8859_15 iso_8859_16 iso8859_16 iso_8859_16_2001 iso8859_16",
   "iso_8859_1_1987 latin_1 iso_8859_2 iso8859_2 iso_8859_2_1987 iso8859_2 iso_8859_3 iso8859_3",
   "iso_8859_3_1988 iso8859_3 iso_8859_4 iso8859_4 iso_8859_4_1988 iso8859_4",
   "iso_8859_5 iso8859_5 iso_8859_5_1988 iso8859_5 iso_8859_6 iso8859_6",
   "iso_8859_6_1987 iso8859_6 iso_8859_7 iso8859_7 iso_8859_7_1987 iso8859_7",
   "iso_8859_8 iso8859_8 iso_8859_8_1988 iso8859_8 iso_8859_9 iso8859_9",
   "iso_8859_9_1989 iso8859_9 iso_celtic iso8859_14 iso_ir_100 latin_1 iso_ir_101 iso8859_2",
   "iso_ir_109 iso8859_3 iso_ir_110 iso8859_4 iso_ir_126 iso8859_7 iso_ir_127 iso8859_6",
   "iso_ir_138 iso8859_8 iso_ir_144 iso8859_5 iso_ir_148 iso8859_9 iso_ir_157 iso8859_10",
   "iso_ir_166 tis_620 iso_ir_199 iso8859_14 iso_ir_226 iso8859_16 iso_ir_58 gb2312",
   "iso_ir_6 ascii jisx0213 euc_jis_2004 johab johab koi8_r koi8_r koi8_t koi8_t koi8_u koi8_u",
   "korean euc_kr ks_c_5601 euc_kr ks_c_5601_1987 euc_kr ks_x_1001 euc_kr ksc5601 euc_kr",
   "ksx1001 euc_kr kz1048 kz1048 kz_1048 kz1048 l1 latin_1 l10 iso8859_16 l2 iso8859_2",
   "l3 iso8859_3 l4 iso8859_4 l5 iso8859_9 l6 iso8859_10 l7 iso8859_13 l8 iso8859_14",
   "l9 iso8859_15 latin latin_1 latin1 latin_1 latin10 iso8859_16 latin2 iso8859_2",
   "latin3 iso8859_3 latin4 iso8859_4 latin5 iso8859_9 latin6 iso8859_10 latin7 iso8859_13",
   "latin8 iso8859_14 latin9 iso8859_15 latin_1 latin_1 mac_arabic mac_arabic",
   "mac_centeuro mac_latin2 mac_croatian mac_croatian mac_cyrillic mac_cyrillic",
   "mac_farsi mac_farsi mac_greek mac_greek mac_iceland mac_iceland mac_latin2 mac_latin2",
   "mac_roman mac_roman mac_romanian mac_romanian mac_turkish mac_turkish",
   "maccentraleurope mac_latin2 maccyrillic mac_cyrillic macgreek mac_greek",
   "maciceland mac_iceland macintosh mac_roman maclatin2 mac_latin2 macroman mac_roman",
   "macturkish mac_turkish ms1361 johab ms932 cp932 ms936 gbk ms949 cp949 ms950 cp950",
   "ms_kanji cp932 mskanji cp932 palmos palmos pt154 ptcp154 ptcp154 ptcp154 punycode punycode",
   "r8 hp_roman8 raw_unicode_escape raw_unicode_escape rk1048 kz1048 roman8 hp_roman8",
   "ruscii cp1125 s_jis shift_jis s_jis_2004 shift_jis_2004 s_jisx0213 shift_jisx0213",
   "shift_jis shift_jis shift_jis_2004 shift_jis_2004 shift_jisx0213 shift_jisx0213",
   "shiftjis shift_jis shiftjis2004 shift_jis_2004 shiftjisx0213 shift_jisx0213 sjis shift_jis",
   "sjis_2004 shift_jis_2004 sjisx0213 shift_jisx0213 strk1048_2002 kz1048 thai iso8859_11",
   "tis620 tis_620 tis_620 tis_620 tis_620_0 tis_620 tis_620_2529_0 tis_620",
   "tis_620_2529_1 tis_620 u16 utf_16 u32 utf_32 u7 utf_7 u8 utf_8 u_jis euc_jp uhc cp949",
   "ujis euc_jp unicode_1_1_utf_7 utf_7 unicode_escape unicode_escape",
   "unicodebigunmarked utf_16_be unicodelittleunmarked utf_16_le us ascii us_ascii ascii",
   "utf utf_8 utf16 utf_16 utf32 utf_32 utf7 utf_7 utf8 utf_8 utf8_ucs2 utf_8 utf8_ucs4 utf_8",
   "utf_16 utf_16 utf_16_be utf_16_be utf_16_le utf_16_le utf_16be utf_16_be utf_16le utf_16_le",
   "utf_32 utf_32 utf_32_be utf_32_be utf_32_le utf_32_le utf_32be utf_32_be utf_32le utf_32_le",
   "utf_7 utf_7 utf_8 utf_8 utf_8_sig utf_8_sig windows_1250 cp1250 windows_1251 cp1251",
   "windows_1252 cp1252 windows_1253 cp1253 windows_1254 cp1254 windows_1255 cp1255",
   "windows_1256 cp1256 windows_1257 cp1257 windows_1258 cp1258 x_mac_japanese shift_jis",
   "x_mac_korean euc_kr x_mac_simp_chinese gb2312 x_mac_trad_chinese big5"]

/-- The names of the sets, by label. -/
def labels : Std.HashMap String String :=
  Std.HashMap.ofList (pairs (labelSource.flatMap (·.splitOn " ")))
where
  /-- Pairs each label with the name that follows it. -/
  pairs : List String → List (String × String)
    | label :: name :: rest => (label, name) :: pairs rest
    | _ => []

/-- The set of a name. -/
def ofName (name : String) : Charset :=
  match name with
  | "utf_8" => utf8
  | "utf_8_sig" => utf8Marked
  | "utf_7" => utf7
  | "utf_16" => utf16Marked
  | "utf_16_le" => utf16 false
  | "utf_16_be" => utf16 true
  | "utf_32" => utf32Marked
  | "utf_32_le" => utf32 false
  | "utf_32_be" => utf32 true
  | "unicode_escape" => escaped
  | "raw_unicode_escape" => codeEscaped
  | "punycode" => punycode
  | "idna" => domain
  | "gb2312" => simplifiedChinese
  | "gbk" => chinese false
  | "gb18030" => chinese true
  | "hz" => tildeChinese
  | "big5" => traditionalChinese
  | "cp950" => taiwanese
  | "big5hkscs" => hongKong
  | "shift_jis" => shiftedJapanese
  | "cp932" => windowsJapanese
  | "euc_jp" => japanese
  | "euc_jisx0213" => extendedJapanese false
  | "euc_jis_2004" => extendedJapanese true
  | "shift_jisx0213" => shiftedExtended false
  | "shift_jis_2004" => shiftedExtended true
  | "euc_kr" => korean
  | "cp949" => windowsKorean
  | "johab" => combinedKorean
  | "iso2022_jp" => switched { single := ['J'], double := ['@', 'B'] }
  | "iso2022_jp_1" => switched { single := ['J'], double := ['@', 'B', 'D'] }
  | "iso2022_jp_2" =>
    switched { single := ['A', 'F', 'J'], double := ['@', 'A', 'B', 'C', 'D'], lends := true }
  | "iso2022_jp_3" => switched { double := ['B', 'O', 'P'] }
  | "iso2022_jp_2004" => switched { double := ['B', 'P', 'Q'], second := true }
  | "iso2022_jp_ext" => switched { single := ['I', 'J'], double := ['@', 'B', 'D'] }
  | "iso2022_kr" => switched { double := ['C'], shifts := true, prefixed := false }
  | name => single name

/-- A label in the form in which labels are compared; `gap` tells that an underscore is due before
the next character. -/
def normalize (gap : Bool) : Text → Text
  | [] => []
  | c :: s =>
    if c.isAlphanum || c == '.' then
      if gap then '_' :: c.toLower :: normalize false s else c.toLower :: normalize false s
    else normalize true s

/-- The set that a label stands for. -/
def ofLabel? (label : Text) : Option Charset :=
  let key := normalize false (label.dropWhile fun c => !(c.isAlphanum || c == '.'))
  if key = "utf_8".toList then some utf8
  else if key = "windows_1252".toList then some (single "cp1252")
  else if key = "utf_16be".toList then some (utf16 true)
  else if key = "utf_32be".toList then some (utf32 true)
  else (labels[String.ofList key]? <|>
    labels[String.ofList (key.map fun c => if c = '.' then '_' else c)]?).map ofName

/-! ## Reading -/

/-- The text of bytes in a character set. -/
def decode? : Charset → Bytes → Option Text
  | utf8, b => ofUtf8? b
  | utf8Marked, 0xEF :: 0xBB :: 0xBF :: b => ofUtf8? b
  | utf8Marked, b => ofUtf8? b
  | utf7, b => decode7? none (ofAscii b)
  | utf16 big, b => decode16? big b
  | utf16Marked, 0xFF :: 0xFE :: b => decode16? false b
  | utf16Marked, 0xFE :: 0xFF :: b => decode16? true b
  | utf16Marked, b => decode16? false b
  | utf32 big, b => decode32? big b
  | utf32Marked, 0xFF :: 0xFE :: 0 :: 0 :: b => decode32? false b
  | utf32Marked, 0 :: 0 :: 0xFE :: 0xFF :: b => decode32? true b
  | utf32Marked, b => decode32? false b
  | escaped, b => decodeEscapes? escape? (ofAscii b)
  | codeEscaped, b => decodeEscapes? codeEscape? (ofAscii b)
  | punycode, b => decodePunycode? b
  | domain, b => decodeDomain? b
  | simplifiedChinese, b => readSimplified.decode? b
  | chinese four, b => (readChinese four).decode? b
  | tildeChinese, b => tildeStep.decode? false b
  | traditionalChinese, b => readTraditional.decode? b
  | taiwanese, b => readTaiwanese.decode? b
  | hongKong, b => readHongKong.decode? b
  | shiftedJapanese, b => readShifted.decode? b
  | windowsJapanese, b => readWindowsJapanese.decode? b
  | japanese, b => readJapanese.decode? b
  | extendedJapanese second, b => (readExtended second).decode? b
  | shiftedExtended second, b => (readShiftedExtended second).decode? b
  | korean, b => readKorean.decode? b
  | windowsKorean, b => readWindowsKorean.decode? b
  | combinedKorean, b => readCombined.decode? b
  | switched w, b => w.step.decode? {} b
  | single name, b => decodeSingle? name b

end Charset

/-- The text of bytes in the character set of a label. -/
def decodeAs? (label : Text) (b : Bytes) : Option Text :=
  (Charset.ofLabel? label).bind fun cs => cs.decode? b

end FeedPage.Text
