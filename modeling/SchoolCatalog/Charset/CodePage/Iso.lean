import SchoolCatalog.Charset.CodePage.Basic

/-!
# Pages of ISO 8859

The parts of ISO 8859 beyond the first, whose characters are Latin-1 up to their tables, and the
Thai standard that one of them repeats.
-/

namespace SchoolCatalog.Charset.CodePage

def isoPages : List CodePage := [
  { name := "iso8859_2"
    aliases := ["csisolatin2", "iso_8859_2", "iso_8859_2_1987", "iso_ir_101", "l2", "latin2"]
    last :=
      "Ą˘Ł¤ĽŚ§¨ŠŞŤŹ\xadŽŻ°ą˛ł´ľśˇ¸šşťź˝žżŔÁÂĂÄĹĆÇČÉĘËĚÍÎĎĐŃŇÓÔŐÖ×ŘŮÚŰÜÝŢßŕáâăäĺćçčéęëěíîďđńňóôő" ++
      "ö÷řůúűüýţ˙" },
  { name := "iso8859_3"
    aliases := ["csisolatin3", "iso_8859_3", "iso_8859_3_1988", "iso_ir_109", "l3", "latin3"]
    last :=
      "Ħ˘£¤�Ĥ§¨İŞĞĴ\xad�Ż°ħ²³´µĥ·¸ışğĵ½�żÀÁÂ�ÄĊĈÇÈÉÊËÌÍÎÏ�ÑÒÓÔĠÖ×ĜÙÚÛÜŬŜßàáâ�äċĉçèéêëìíîï�ñòóôġ" ++
      "ö÷ĝùúûüŭŝ˙" },
  { name := "iso8859_4"
    aliases := ["csisolatin4", "iso_8859_4", "iso_8859_4_1988", "iso_ir_110", "l4", "latin4"]
    last :=
      "ĄĸŖ¤ĨĻ§¨ŠĒĢŦ\xadŽ¯°ą˛ŗ´ĩļˇ¸šēģŧŊžŋĀÁÂÃÄÅÆĮČÉĘËĖÍÎĪĐŅŌĶÔÕÖ×ØŲÚÛÜŨŪßāáâãäåæįčéęëėíîīđņōķôõ" ++
      "ö÷øųúûüũū˙" },
  { name := "iso8859_5"
    aliases := ["csisolatincyrillic", "cyrillic", "iso_8859_5", "iso_8859_5_1988", "iso_ir_144"]
    last :=
      "ЁЂЃЄЅІЇЈЉЊЋЌ\xadЎЏАБВГДЕЖЗИЙКЛМНОПРСТУФХЦЧШЩЪЫЬЭЮЯабвгдежзийклмнопрстуфхцчшщъыьэюя№ёђѓєѕ" ++
      "іїјљњћќ§ўџ" },
  { name := "iso8859_6"
    aliases := ["arabic", "asmo_708", "csisolatinarabic", "ecma_114", "iso_8859_6",
                "iso_8859_6_1987", "iso_ir_127"]
    last :=
      "���¤�������،\xad�������������؛���؟�ءآأؤإئابةتثجحخدذرزسشصضطظعغ�����ـفقكلمنهوىي\u064b" ++
      "\u064c\u064d\u064e\u064f\u0650\u0651\u0652�������������" },
  { name := "iso8859_7"
    aliases := ["csisolatingreek", "ecma_118", "elot_928", "greek", "greek8", "iso_8859_7",
                "iso_8859_7_1987", "iso_ir_126"]
    last :=
      "‘’£€₯¦§¨©ͺ«¬\xad�―°±²³΄΅Ά·ΈΉΊ»Ό½ΎΏΐΑΒΓΔΕΖΗΘΙΚΛΜΝΞΟΠΡ�ΣΤΥΦΧΨΩΪΫάέήίΰαβγδεζηθικλμνξοπρςστυ" ++
      "φχψωϊϋόύώ�" },
  { name := "iso8859_8"
    aliases := ["csisolatinhebrew", "hebrew", "iso_8859_8", "iso_8859_8_1988", "iso_ir_138"]
    last :=
      "�¢£¤¥¦§¨©×«¬\xad®¯°±²³´µ¶·¸¹÷»¼½¾��������������������������������‗אבגדהוזחטיךכלםמןנסעףפץ" ++
      "צקרשת��\u200e\u200f�" },
  { name := "iso8859_9"
    aliases := ["csisolatin5", "iso_8859_9", "iso_8859_9_1989", "iso_ir_148", "l5", "latin5"]
    last :=
      "ĞÑÒÓÔÕÖ×ØÙÚÛÜİŞßàáâãäåæçèéêëìíîïğñòóôõö÷øùúûüışÿ" },
  { name := "iso8859_10"
    aliases := ["csisolatin6", "iso_8859_10", "iso_8859_10_1992", "iso_ir_157", "l6", "latin6"]
    last :=
      "ĄĒĢĪĨĶ§ĻĐŠŦŽ\xadŪŊ°ąēģīĩķ·ļđšŧž―ūŋĀÁÂÃÄÅÆĮČÉĘËĖÍÎÏÐŅŌÓÔÕÖŨØŲÚÛÜÝÞßāáâãäåæįčéęëėíîïðņōóôõ" ++
      "öũøųúûüýþĸ" },
  { name := "iso8859_11"
    aliases := ["thai", "iso_8859_11", "iso_8859_11_2001"]
    last :=
      "กขฃคฅฆงจฉชซฌญฎฏฐฑฒณดตถทธนบปผฝพฟภมยรฤลฦวศษสหฬอฮฯะ\u0e31าำ\u0e34\u0e35\u0e36\u0e37\u0e38" ++
      "\u0e39\u0e3a����฿เแโใไๅๆ\u0e47\u0e48\u0e49\u0e4a\u0e4b\u0e4c\u0e4d\u0e4e๏๐๑๒๓๔๕๖๗๘๙๚๛���" ++
      "�" },
  { name := "iso8859_13"
    aliases := ["iso_8859_13", "l7", "latin7"]
    last :=
      "”¢£¤„¦§Ø©Ŗ«¬\xad®Æ°±²³“µ¶·ø¹ŗ»¼½¾æĄĮĀĆÄÅĘĒČÉŹĖĢĶĪĻŠŃŅÓŌÕÖ×ŲŁŚŪÜŻŽßąįāćäåęēčéźėģķīļšńņóōõ" ++
      "ö÷ųłśūüżž’" },
  { name := "iso8859_14"
    aliases := ["iso_8859_14", "iso_8859_14_1998", "iso_celtic", "iso_ir_199", "l8", "latin8"]
    last :=
      "Ḃḃ£ĊċḊ§Ẁ©ẂḋỲ\xad®ŸḞḟĠġṀṁ¶ṖẁṗẃṠỳẄẅṡÀÁÂÃÄÅÆÇÈÉÊËÌÍÎÏŴÑÒÓÔÕÖṪØÙÚÛÜÝŶßàáâãäåæçèéêëìíîïŵñòóôõ" ++
      "öṫøùúûüýŷÿ" },
  { name := "iso8859_15"
    aliases := ["iso_8859_15", "l9", "latin9"]
    last :=
      "€¥Š§š©ª«¬\xad®¯°±²³Žµ¶·ž¹º»ŒœŸ¿ÀÁÂÃÄÅÆÇÈÉÊËÌÍÎÏÐÑÒÓÔÕÖ×ØÙÚÛÜÝÞßàáâãäåæçèéêëìíîïðñòóôõö÷ø" ++
      "ùúûüýþÿ" },
  { name := "iso8859_16"
    aliases := ["iso_8859_16", "iso_8859_16_2001", "iso_ir_226", "l10", "latin10"]
    last :=
      "ĄąŁ€„Š§š©Ș«Ź\xadźŻ°±ČłŽ”¶·žčș»ŒœŸżÀÁÂĂÄĆÆÇÈÉÊËÌÍÎÏĐŃÒÓÔŐÖŚŰÙÚÛÜĘȚßàáâăäćæçèéêëìíîïđńòóôő" ++
      "öśűùúûüęțÿ" },
  { name := "tis_620"
    aliases := ["tis620", "tis_620_0", "tis_620_2529_0", "tis_620_2529_1", "iso_ir_166"]
    last :=
      "�กขฃคฅฆงจฉชซฌญฎฏฐฑฒณดตถทธนบปผฝพฟภมยรฤลฦวศษสหฬอฮฯะ\u0e31าำ\u0e34\u0e35\u0e36\u0e37\u0e38" ++
      "\u0e39\u0e3a����฿เแโใไๅๆ\u0e47\u0e48\u0e49\u0e4a\u0e4b\u0e4c\u0e4d\u0e4e๏๐๑๒๓๔๕๖๗๘๙๚๛���" ++
      "�" }]

end SchoolCatalog.Charset.CodePage
