import RelaxCompact.Text.CodePage.Tables

/-!
Character sets of one byte each by the names that they go by.
-/

namespace RelaxCompact.CodePage

/-- The code pages, each with the name that it goes by and with other names for it. -/
def all : List (String × List String × CodePage) :=
  [("iso8859_2", ["csisolatin2", "iso_8859_2", "iso_8859_2_1987", "iso_ir_101", "l2", "latin2"],
      iso8859Part2),
   ("iso8859_3", ["csisolatin3", "iso_8859_3", "iso_8859_3_1988", "iso_ir_109", "l3", "latin3"],
      iso8859Part3),
   ("iso8859_4", ["csisolatin4", "iso_8859_4", "iso_8859_4_1988", "iso_ir_110", "l4", "latin4"],
      iso8859Part4),
   ("iso8859_5", ["csisolatincyrillic", "cyrillic", "iso_8859_5", "iso_8859_5_1988",
      "iso_ir_144"], iso8859Part5),
   ("iso8859_6", ["arabic", "asmo_708", "csisolatinarabic", "ecma_114", "iso_8859_6",
      "iso_8859_6_1987", "iso_ir_127"], iso8859Part6),
   ("iso8859_7", ["csisolatingreek", "ecma_118", "elot_928", "greek", "greek8", "iso_8859_7",
      "iso_8859_7_1987", "iso_ir_126"], iso8859Part7),
   ("iso8859_8", ["csisolatinhebrew", "hebrew", "iso_8859_8", "iso_8859_8_1988", "iso_ir_138"],
      iso8859Part8),
   ("iso8859_9", ["csisolatin5", "iso_8859_9", "iso_8859_9_1989", "iso_ir_148", "l5", "latin5"],
      iso8859Part9),
   ("iso8859_10", ["csisolatin6", "iso_8859_10", "iso_8859_10_1992", "iso_ir_157", "l6",
      "latin6"], iso8859Part10),
   ("iso8859_11", ["iso_8859_11", "iso_8859_11_2001", "thai"], iso8859Part11),
   ("iso8859_13", ["iso_8859_13", "l7", "latin7"], iso8859Part13),
   ("iso8859_14", ["iso_8859_14", "iso_8859_14_1998", "iso_celtic", "iso_ir_199", "l8",
      "latin8"], iso8859Part14),
   ("iso8859_15", ["iso_8859_15", "l9", "latin9"], iso8859Part15),
   ("iso8859_16", ["iso_8859_16", "iso_8859_16_2001", "iso_ir_226", "l10", "latin10"],
      iso8859Part16),
   ("tis_620", ["iso_ir_166", "tis620", "tis_620_0", "tis_620_2529_0", "tis_620_2529_1"],
      tis620),
   ("cp1250", ["1250", "windows_1250"], cp1250),
   ("cp1251", ["1251", "windows_1251"], cp1251),
   ("cp1252", ["1252", "windows_1252"], cp1252),
   ("cp1253", ["1253", "windows_1253"], cp1253),
   ("cp1254", ["1254", "windows_1254"], cp1254),
   ("cp1255", ["1255", "windows_1255"], cp1255),
   ("cp1256", ["1256", "windows_1256"], cp1256),
   ("cp1257", ["1257", "windows_1257"], cp1257),
   ("cp1258", ["1258", "windows_1258"], cp1258),
   ("cp874", [], cp874),
   ("cp437", ["437", "cspc8codepage437", "ibm437"], cp437),
   ("cp720", [], cp720),
   ("cp737", [], cp737),
   ("cp775", ["775", "cspc775baltic", "ibm775"], cp775),
   ("cp850", ["850", "cspc850multilingual", "ibm850"], cp850),
   ("cp852", ["852", "cspcp852", "ibm852"], cp852),
   ("cp855", ["855", "csibm855", "ibm855"], cp855),
   ("cp856", [], cp856),
   ("cp857", ["857", "csibm857", "ibm857"], cp857),
   ("cp858", ["858", "csibm858", "ibm858"], cp858),
   ("cp860", ["860", "csibm860", "ibm860"], cp860),
   ("cp861", ["861", "cp_is", "csibm861", "ibm861"], cp861),
   ("cp862", ["862", "cspc862latinhebrew", "ibm862"], cp862),
   ("cp863", ["863", "csibm863", "ibm863"], cp863),
   ("cp864", ["864", "csibm864", "ibm864"], cp864),
   ("cp865", ["865", "csibm865", "ibm865"], cp865),
   ("cp866", ["866", "csibm866", "ibm866"], cp866),
   ("cp869", ["869", "cp_gr", "csibm869", "ibm869"], cp869),
   ("cp1125", ["1125", "cp866u", "ibm1125", "ruscii"], cp1125),
   ("cp037", ["037", "csibm037", "ebcdic_cp_ca", "ebcdic_cp_nl", "ebcdic_cp_us", "ebcdic_cp_wt",
      "ibm037", "ibm039"], cp037),
   ("cp273", ["273", "csibm273", "ibm273"], cp273),
   ("cp424", ["424", "csibm424", "ebcdic_cp_he", "ibm424"], cp424),
   ("cp500", ["500", "csibm500", "ebcdic_cp_be", "ebcdic_cp_ch", "ibm500"], cp500),
   ("cp875", [], cp875),
   ("cp1026", ["1026", "csibm1026", "ibm1026"], cp1026),
   ("cp1140", ["1140", "ibm1140"], cp1140),
   ("mac_arabic", [], macArabic),
   ("mac_croatian", [], macCroatian),
   ("mac_cyrillic", ["maccyrillic"], macCyrillic),
   ("mac_farsi", [], macFarsi),
   ("mac_greek", ["macgreek"], macGreek),
   ("mac_iceland", ["maciceland"], macIceland),
   ("mac_latin2", ["mac_centeuro", "maccentraleurope", "maclatin2"], macLatin2),
   ("mac_roman", ["macintosh", "macroman"], macRoman),
   ("mac_romanian", [], macRomanian),
   ("mac_turkish", ["macturkish"], macTurkish),
   ("cp1006", [], cp1006),
   ("palmos", [], palmos),
   ("koi8_r", ["cskoi8r"], koi8R),
   ("koi8_t", [], koi8T),
   ("koi8_u", [], koi8U),
   ("kz1048", ["kz_1048", "rk1048", "strk1048_2002"], kz1048),
   ("ptcp154", ["cp154", "csptcp154", "cyrillic_asian", "pt154"], ptcp154),
   ("hp_roman8", ["cp1051", "ibm1051", "r8", "roman8"], hpRoman8)]

end RelaxCompact.CodePage
