/-!
# Tables of code pages

The characters of the upper octets in encodings of one octet per character, in rows of eight. The
replacement character stands for an octet without character.
-/

namespace PointTable.Text.CodePage

def cp1125 : List String := [
  "АБВГДЕЖЗ", "ИЙКЛМНОП", "РСТУФХЦЧ", "ШЩЪЫЬЭЮЯ", "абвгдежз", "ийклмноп", "░▒▓│┤╡╢╖", "╕╣║╗╝╜╛┐",
  "└┴┬├─┼╞╟", "╚╔╩╦╠═╬╧", "╨╤╥╙╘╒╓╫", "╪┘┌█▄▌▐▀", "рстуфхцч", "шщъыьэюя", "ЁёҐґЄєІі",
  "Її·√№¤■\u00a0"]

def cp1250 : List String := [
  "€\ufffd‚\ufffd„…†‡", "\ufffd‰Š‹ŚŤŽŹ", "\ufffd‘’“”•–—", "\ufffd™š›śťžź", "\u00a0ˇ˘Ł¤Ą¦§",
  "¨©Ş«¬\u00ad®Ż", "°±˛ł´µ¶·", "¸ąş»Ľ˝ľż", "ŔÁÂĂÄĹĆÇ", "ČÉĘËĚÍÎĎ", "ĐŃŇÓÔŐÖ×", "ŘŮÚŰÜÝŢß",
  "ŕáâăäĺćç", "čéęëěíîď", "đńňóôőö÷", "řůúűüýţ˙"]

def cp1251 : List String := [
  "ЂЃ‚ѓ„…†‡", "€‰Љ‹ЊЌЋЏ", "ђ‘’“”•–—", "\ufffd™љ›њќћџ", "\u00a0ЎўЈ¤Ґ¦§", "Ё©Є«¬\u00ad®Ї", "°±Ііґµ¶·",
  "ё№є»јЅѕї", "АБВГДЕЖЗ", "ИЙКЛМНОП", "РСТУФХЦЧ", "ШЩЪЫЬЭЮЯ", "абвгдежз", "ийклмноп", "рстуфхцч",
  "шщъыьэюя"]

def cp1252 : List String := [
  "€\ufffd‚ƒ„…†‡", "ˆ‰Š‹Œ\ufffdŽ\ufffd", "\ufffd‘’“”•–—", "˜™š›œ\ufffdžŸ", "\u00a0¡¢£¤¥¦§",
  "¨©ª«¬\u00ad®¯", "°±²³´µ¶·", "¸¹º»¼½¾¿", "ÀÁÂÃÄÅÆÇ", "ÈÉÊËÌÍÎÏ", "ÐÑÒÓÔÕÖ×", "ØÙÚÛÜÝÞß",
  "àáâãäåæç", "èéêëìíîï", "ðñòóôõö÷", "øùúûüýþÿ"]

def cp1253 : List String := [
  "€\ufffd‚ƒ„…†‡", "\ufffd‰\ufffd‹\ufffd\ufffd\ufffd\ufffd", "\ufffd‘’“”•–—",
  "\ufffd™\ufffd›\ufffd\ufffd\ufffd\ufffd", "\u00a0΅Ά£¤¥¦§", "¨©\ufffd«¬\u00ad®―", "°±²³΄µ¶·",
  "ΈΉΊ»Ό½ΎΏ", "ΐΑΒΓΔΕΖΗ", "ΘΙΚΛΜΝΞΟ", "ΠΡ\ufffdΣΤΥΦΧ", "ΨΩΪΫάέήί", "ΰαβγδεζη", "θικλμνξο",
  "πρςστυφχ", "ψωϊϋόύώ\ufffd"]

def cp1254 : List String := [
  "€\ufffd‚ƒ„…†‡", "ˆ‰Š‹Œ\ufffd\ufffd\ufffd", "\ufffd‘’“”•–—", "˜™š›œ\ufffd\ufffdŸ",
  "\u00a0¡¢£¤¥¦§", "¨©ª«¬\u00ad®¯", "°±²³´µ¶·", "¸¹º»¼½¾¿", "ÀÁÂÃÄÅÆÇ", "ÈÉÊËÌÍÎÏ", "ĞÑÒÓÔÕÖ×",
  "ØÙÚÛÜİŞß", "àáâãäåæç", "èéêëìíîï", "ğñòóôõö÷", "øùúûüışÿ"]

def cp1255 : List String := [
  "€\ufffd‚ƒ„…†‡", "ˆ‰\ufffd‹\ufffd\ufffd\ufffd\ufffd", "\ufffd‘’“”•–—",
  "˜™\ufffd›\ufffd\ufffd\ufffd\ufffd", "\u00a0¡¢£₪¥¦§", "¨©×«¬\u00ad®¯", "°±²³´µ¶·", "¸¹÷»¼½¾¿",
  "\u05b0\u05b1\u05b2\u05b3\u05b4\u05b5\u05b6\u05b7",
  "\u05b8\u05b9\ufffd\u05bb\u05bc\u05bd\u05be\u05bf",
  "\u05c0\u05c1\u05c2\u05c3\u05f0\u05f1\u05f2\u05f3",
  "\u05f4\ufffd\ufffd\ufffd\ufffd\ufffd\ufffd\ufffd",
  "\u05d0\u05d1\u05d2\u05d3\u05d4\u05d5\u05d6\u05d7",
  "\u05d8\u05d9\u05da\u05db\u05dc\u05dd\u05de\u05df",
  "\u05e0\u05e1\u05e2\u05e3\u05e4\u05e5\u05e6\u05e7",
  "\u05e8\u05e9\u05ea\ufffd\ufffd\u200e\u200f\ufffd"]

def cp1256 : List String := [
  "€\u067e‚ƒ„…†‡", "ˆ‰\u0679‹Œ\u0686\u0698\u0688", "\u06af‘’“”•–—",
  "\u06a9™\u0691›œ\u200c\u200d\u06ba", "\u00a0،¢£¤¥¦§", "¨©\u06be«¬\u00ad®¯", "°±²³´µ¶·",
  "¸¹\u061b»¼½¾\u061f", "\u06c1\u0621\u0622\u0623\u0624\u0625\u0626\u0627",
  "\u0628\u0629\u062a\u062b\u062c\u062d\u062e\u062f", "\u0630\u0631\u0632\u0633\u0634\u0635\u0636×",
  "\u0637\u0638\u0639\u063a\u0640\u0641\u0642\u0643", "à\u0644â\u0645\u0646\u0647\u0648ç",
  "èéêë\u0649\u064aîï", "\u064b\u064c\u064d\u064eô\u064f\u0650÷",
  "\u0651ù\u0652ûü\u200e\u200f\u06d2"]

def cp1257 : List String := [
  "€\ufffd‚\ufffd„…†‡", "\ufffd‰\ufffd‹\ufffd¨ˇ¸", "\ufffd‘’“”•–—", "\ufffd™\ufffd›\ufffd¯˛\ufffd",
  "\u00a0\ufffd¢£¤\ufffd¦§", "Ø©Ŗ«¬\u00ad®Æ", "°±²³´µ¶·", "ø¹ŗ»¼½¾æ", "ĄĮĀĆÄÅĘĒ", "ČÉŹĖĢĶĪĻ",
  "ŠŃŅÓŌÕÖ×", "ŲŁŚŪÜŻŽß", "ąįāćäåęē", "čéźėģķīļ", "šńņóōõö÷", "ųłśūüżž˙"]

def cp1258 : List String := [
  "€\ufffd‚ƒ„…†‡", "ˆ‰\ufffd‹Œ\ufffd\ufffd\ufffd", "\ufffd‘’“”•–—", "˜™\ufffd›œ\ufffd\ufffdŸ",
  "\u00a0¡¢£¤¥¦§", "¨©ª«¬\u00ad®¯", "°±²³´µ¶·", "¸¹º»¼½¾¿", "ÀÁÂĂÄÅÆÇ", "ÈÉÊË\u0300ÍÎÏ",
  "ĐÑ\u0309ÓÔƠÖ×", "ØÙÚÛÜƯ\u0303ß", "àáâăäåæç", "èéêë\u0301íîï", "đñ\u0323óôơö÷", "øùúûüư₫ÿ"]

def cp437 : List String := [
  "Çüéâäàåç", "êëèïîìÄÅ", "ÉæÆôöòûù", "ÿÖÜ¢£¥₧ƒ", "áíóúñÑªº", "¿⌐¬½¼¡«»", "░▒▓│┤╡╢╖", "╕╣║╗╝╜╛┐",
  "└┴┬├─┼╞╟", "╚╔╩╦╠═╬╧", "╨╤╥╙╘╒╓╫", "╪┘┌█▄▌▐▀", "αßΓπΣσµτ", "ΦΘΩδ∞φε∩", "≡±≥≤⌠⌡÷≈",
  "°∙·√ⁿ²■\u00a0"]

def cp775 : List String := [
  "Ćüéāäģåć", "łēŖŗīŹÄÅ", "ÉæÆōöĢ¢Ś", "śÖÜø£Ø×¤", "ĀĪóŻżź”¦", "©®¬½¼Ł«»", "░▒▓│┤ĄČĘ", "Ė╣║╗╝ĮŠ┐",
  "└┴┬├─┼ŲŪ", "╚╔╩╦╠═╬Ž", "ąčęėįšųū", "ž┘┌█▄▌▐▀", "ÓßŌŃõÕµń", "ĶķĻļņĒŅ’", "\u00ad±“¾¶§÷„",
  "°∙·¹³²■\u00a0"]

def cp850 : List String := [
  "Çüéâäàåç", "êëèïîìÄÅ", "ÉæÆôöòûù", "ÿÖÜø£Ø×ƒ", "áíóúñÑªº", "¿®¬½¼¡«»", "░▒▓│┤ÁÂÀ", "©╣║╗╝¢¥┐",
  "└┴┬├─┼ãÃ", "╚╔╩╦╠═╬¤", "ðÐÊËÈıÍÎ", "Ï┘┌█▄¦Ì▀", "ÓßÔÒõÕµþ", "ÞÚÛÙýÝ¯´", "\u00ad±‗¾¶§÷¸",
  "°¨·¹³²■\u00a0"]

def cp852 : List String := [
  "Çüéâäůćç", "łëŐőîŹÄĆ", "ÉĹĺôöĽľŚ", "śÖÜŤťŁ×č", "áíóúĄąŽž", "Ęę¬źČş«»", "░▒▓│┤ÁÂĚ", "Ş╣║╗╝Żż┐",
  "└┴┬├─┼Ăă", "╚╔╩╦╠═╬¤", "đĐĎËďŇÍÎ", "ě┘┌█▄ŢŮ▀", "ÓßÔŃńňŠš", "ŔÚŕŰýÝţ´", "\u00ad˝˛ˇ˘§÷¸",
  "°¨˙űŘř■\u00a0"]

def cp855 : List String := [
  "ђЂѓЃёЁєЄ", "ѕЅіІїЇјЈ", "љЉњЊћЋќЌ", "ўЎџЏюЮъЪ", "аАбБцЦдД", "еЕфФгГ«»", "░▒▓│┤хХи", "И╣║╗╝йЙ┐",
  "└┴┬├─┼кК", "╚╔╩╦╠═╬¤", "лЛмМнНоО", "п┘┌█▄Пя▀", "ЯрРсСтТу", "УжЖвВьЬ№", "\u00adыЫзЗшШэ",
  "ЭщЩчЧ§■\u00a0"]

def cp857 : List String := [
  "Çüéâäàåç", "êëèïîıÄÅ", "ÉæÆôöòûù", "İÖÜø£ØŞş", "áíóúñÑĞğ", "¿®¬½¼¡«»", "░▒▓│┤ÁÂÀ", "©╣║╗╝¢¥┐",
  "└┴┬├─┼ãÃ", "╚╔╩╦╠═╬¤", "ºªÊËÈ\ufffdÍÎ", "Ï┘┌█▄¦Ì▀", "ÓßÔÒõÕµ\ufffd", "×ÚÛÙìÿ¯´",
  "\u00ad±\ufffd¾¶§÷¸", "°¨·¹³²■\u00a0"]

def cp858 : List String := [
  "Çüéâäàåç", "êëèïîìÄÅ", "ÉæÆôöòûù", "ÿÖÜø£Ø×ƒ", "áíóúñÑªº", "¿®¬½¼¡«»", "░▒▓│┤ÁÂÀ", "©╣║╗╝¢¥┐",
  "└┴┬├─┼ãÃ", "╚╔╩╦╠═╬¤", "ðÐÊËÈ€ÍÎ", "Ï┘┌█▄¦Ì▀", "ÓßÔÒõÕµþ", "ÞÚÛÙýÝ¯´", "\u00ad±‗¾¶§÷¸",
  "°¨·¹³²■\u00a0"]

def cp860 : List String := [
  "ÇüéâãàÁç", "êÊèÍÔìÃÂ", "ÉÀÈôõòÚù", "ÌÕÜ¢£Ù₧Ó", "áíóúñÑªº", "¿Ò¬½¼¡«»", "░▒▓│┤╡╢╖", "╕╣║╗╝╜╛┐",
  "└┴┬├─┼╞╟", "╚╔╩╦╠═╬╧", "╨╤╥╙╘╒╓╫", "╪┘┌█▄▌▐▀", "αßΓπΣσµτ", "ΦΘΩδ∞φε∩", "≡±≥≤⌠⌡÷≈",
  "°∙·√ⁿ²■\u00a0"]

def cp861 : List String := [
  "Çüéâäàåç", "êëèÐðÞÄÅ", "ÉæÆôöþûÝ", "ýÖÜø£Ø₧ƒ", "áíóúÁÍÓÚ", "¿⌐¬½¼¡«»", "░▒▓│┤╡╢╖", "╕╣║╗╝╜╛┐",
  "└┴┬├─┼╞╟", "╚╔╩╦╠═╬╧", "╨╤╥╙╘╒╓╫", "╪┘┌█▄▌▐▀", "αßΓπΣσµτ", "ΦΘΩδ∞φε∩", "≡±≥≤⌠⌡÷≈",
  "°∙·√ⁿ²■\u00a0"]

def cp862 : List String := [
  "\u05d0\u05d1\u05d2\u05d3\u05d4\u05d5\u05d6\u05d7",
  "\u05d8\u05d9\u05da\u05db\u05dc\u05dd\u05de\u05df",
  "\u05e0\u05e1\u05e2\u05e3\u05e4\u05e5\u05e6\u05e7", "\u05e8\u05e9\u05ea¢£¥₧ƒ", "áíóúñÑªº",
  "¿⌐¬½¼¡«»", "░▒▓│┤╡╢╖", "╕╣║╗╝╜╛┐", "└┴┬├─┼╞╟", "╚╔╩╦╠═╬╧", "╨╤╥╙╘╒╓╫", "╪┘┌█▄▌▐▀", "αßΓπΣσµτ",
  "ΦΘΩδ∞φε∩", "≡±≥≤⌠⌡÷≈", "°∙·√ⁿ²■\u00a0"]

def cp863 : List String := [
  "ÇüéâÂà¶ç", "êëèïî‗À§", "ÉÈÊôËÏûù", "¤ÔÜ¢£ÙÛƒ", "¦´óú¨¸³¯", "Î⌐¬½¼¾«»", "░▒▓│┤╡╢╖", "╕╣║╗╝╜╛┐",
  "└┴┬├─┼╞╟", "╚╔╩╦╠═╬╧", "╨╤╥╙╘╒╓╫", "╪┘┌█▄▌▐▀", "αßΓπΣσµτ", "ΦΘΩδ∞φε∩", "≡±≥≤⌠⌡÷≈",
  "°∙·√ⁿ²■\u00a0"]

def cp865 : List String := [
  "Çüéâäàåç", "êëèïîìÄÅ", "ÉæÆôöòûù", "ÿÖÜø£Ø₧ƒ", "áíóúñÑªº", "¿⌐¬½¼¡«¤", "░▒▓│┤╡╢╖", "╕╣║╗╝╜╛┐",
  "└┴┬├─┼╞╟", "╚╔╩╦╠═╬╧", "╨╤╥╙╘╒╓╫", "╪┘┌█▄▌▐▀", "αßΓπΣσµτ", "ΦΘΩδ∞φε∩", "≡±≥≤⌠⌡÷≈",
  "°∙·√ⁿ²■\u00a0"]

def cp866 : List String := [
  "АБВГДЕЖЗ", "ИЙКЛМНОП", "РСТУФХЦЧ", "ШЩЪЫЬЭЮЯ", "абвгдежз", "ийклмноп", "░▒▓│┤╡╢╖", "╕╣║╗╝╜╛┐",
  "└┴┬├─┼╞╟", "╚╔╩╦╠═╬╧", "╨╤╥╙╘╒╓╫", "╪┘┌█▄▌▐▀", "рстуфхцч", "шщъыьэюя", "ЁёЄєЇїЎў",
  "°∙·√№¤■\u00a0"]

def cp869 : List String := [
  "\ufffd\ufffd\ufffd\ufffd\ufffd\ufffdΆ\ufffd", "·¬¦‘’Έ―Ή", "ΊΪΌ\ufffd\ufffdΎΫ©", "Ώ²³ά£έήί",
  "ϊΐόύΑΒΓΔ", "ΕΖΗ½ΘΙ«»", "░▒▓│┤ΚΛΜ", "Ν╣║╗╝ΞΟ┐", "└┴┬├─┼ΠΡ", "╚╔╩╦╠═╬Σ", "ΤΥΦΧΨΩαβ", "γ┘┌█▄δε▀",
  "ζηθικλμν", "ξοπρσςτ΄", "\u00ad±υφχ§ψ΅", "°¨ωϋΰώ■\u00a0"]

def iso88596 : List String := [
  "\u0080\u0081\u0082\u0083\u0084\u0085\u0086\u0087",
  "\u0088\u0089\u008a\u008b\u008c\u008d\u008e\u008f",
  "\u0090\u0091\u0092\u0093\u0094\u0095\u0096\u0097",
  "\u0098\u0099\u009a\u009b\u009c\u009d\u009e\u009f", "\u00a0\ufffd\ufffd\ufffd¤\ufffd\ufffd\ufffd",
  "\ufffd\ufffd\ufffd\ufffd،\u00ad\ufffd\ufffd", "\ufffd\ufffd\ufffd\ufffd\ufffd\ufffd\ufffd\ufffd",
  "\ufffd\ufffd\ufffd\u061b\ufffd\ufffd\ufffd\u061f",
  "\ufffd\u0621\u0622\u0623\u0624\u0625\u0626\u0627",
  "\u0628\u0629\u062a\u062b\u062c\u062d\u062e\u062f",
  "\u0630\u0631\u0632\u0633\u0634\u0635\u0636\u0637",
  "\u0638\u0639\u063a\ufffd\ufffd\ufffd\ufffd\ufffd",
  "\u0640\u0641\u0642\u0643\u0644\u0645\u0646\u0647",
  "\u0648\u0649\u064a\u064b\u064c\u064d\u064e\u064f",
  "\u0650\u0651\u0652\ufffd\ufffd\ufffd\ufffd\ufffd",
  "\ufffd\ufffd\ufffd\ufffd\ufffd\ufffd\ufffd\ufffd"]

def cp1006 : List String := [
  "\u0080\u0081\u0082\u0083\u0084\u0085\u0086\u0087",
  "\u0088\u0089\u008a\u008b\u008c\u008d\u008e\u008f",
  "\u0090\u0091\u0092\u0093\u0094\u0095\u0096\u0097",
  "\u0098\u0099\u009a\u009b\u009c\u009d\u009e\u009f", "\u00a0۰۱۲۳۴۵۶",
  "۷۸۹،\u061b\u00ad\u061f\ufe81", "\ufe8d\ufe8e\ufe8e\ufe8f\ufe91\ufb56\ufb58\ufe93",
  "\ufe95\ufe97\ufb66\ufb68\ufe99\ufe9b\ufe9d\ufe9f",
  "\ufb7a\ufb7c\ufea1\ufea3\ufea5\ufea7\ufea9\ufb84",
  "\ufeab\ufead\ufb8c\ufeaf\ufb8a\ufeb1\ufeb3\ufeb5",
  "\ufeb7\ufeb9\ufebb\ufebd\ufebf\ufec1\ufec5\ufec9",
  "\ufeca\ufecb\ufecc\ufecd\ufece\ufecf\ufed0\ufed1",
  "\ufed3\ufed5\ufed7\ufed9\ufedb\ufb92\ufb94\ufedd",
  "\ufedf\ufee0\ufee1\ufee3\ufb9e\ufee5\ufee7\ufe85",
  "\ufeed\ufba6\ufba8\ufba9\ufbaa\ufe80\ufe89\ufe8a",
  "\ufe8b\ufef1\ufef2\ufef3\ufbb0\ufbae\ufe7c\ufe7d"]

def hpRoman8 : List String := [
  "\u0080\u0081\u0082\u0083\u0084\u0085\u0086\u0087",
  "\u0088\u0089\u008a\u008b\u008c\u008d\u008e\u008f",
  "\u0090\u0091\u0092\u0093\u0094\u0095\u0096\u0097",
  "\u0098\u0099\u009a\u009b\u009c\u009d\u009e\u009f", "\u00a0ÀÂÈÊËÎÏ", "´ˋˆ¨˜ÙÛ₤", "¯Ýý°ÇçÑñ",
  "¡¿¤£¥§ƒ¢", "âêôûáéóú", "àèòùäëöü", "ÅîØÆåíøæ", "ÄìÖÜÉïßÔ", "ÁÃãÐðÍÌÓ", "ÒÕõŠšÚŸÿ", "Þþ·µ¶¾—¼",
  "½ªº«■»±\ufffd"]

def ptcp154 : List String := [
  "ҖҒӮғ„…ҶҮ", "ҲүҠӢҢҚҺҸ", "җ‘’“”•–—", "ҳҷҡӣңқһҹ", "\u00a0ЎўЈӨҘҰ§", "Ё©Ә«¬ӯ®Ҝ", "°ұІіҙө¶·",
  "ё№ә»јҪҫҝ", "АБВГДЕЖЗ", "ИЙКЛМНОП", "РСТУФХЦЧ", "ШЩЪЫЬЭЮЯ", "абвгдежз", "ийклмноп", "рстуфхцч",
  "шщъыьэюя"]

def cp720 : List String := [
  "\u0080\u0081éâ\u0084à\u0086ç", "êëèïî\u008d\u008e\u008f", "\u0090\u0651\u0652ô¤\u0640ûù",
  "\u0621\u0622\u0623\u0624£\u0625\u0626\u0627", "\u0628\u0629\u062a\u062b\u062c\u062d\u062e\u062f",
  "\u0630\u0631\u0632\u0633\u0634\u0635«»", "░▒▓│┤╡╢╖", "╕╣║╗╝╜╛┐", "└┴┬├─┼╞╟", "╚╔╩╦╠═╬╧",
  "╨╤╥╙╘╒╓╫", "╪┘┌█▄▌▐▀", "\u0636\u0637\u0638\u0639\u063a\u0641µ\u0642",
  "\u0643\u0644\u0645\u0646\u0647\u0648\u0649\u064a", "≡\u064b\u064c\u064d\u064e\u064f\u0650≈",
  "°∙·√ⁿ²■\u00a0"]

def cp737 : List String := [
  "ΑΒΓΔΕΖΗΘ", "ΙΚΛΜΝΞΟΠ", "ΡΣΤΥΦΧΨΩ", "αβγδεζηθ", "ικλμνξοπ", "ρσςτυφχψ", "░▒▓│┤╡╢╖", "╕╣║╗╝╜╛┐",
  "└┴┬├─┼╞╟", "╚╔╩╦╠═╬╧", "╨╤╥╙╘╒╓╫", "╪┘┌█▄▌▐▀", "ωάέήϊίόύ", "ϋώΆΈΉΊΌΎ", "Ώ±≥≤ΪΫ÷≈",
  "°∙·√ⁿ²■\u00a0"]

def cp856 : List String := [
  "\u05d0\u05d1\u05d2\u05d3\u05d4\u05d5\u05d6\u05d7",
  "\u05d8\u05d9\u05da\u05db\u05dc\u05dd\u05de\u05df",
  "\u05e0\u05e1\u05e2\u05e3\u05e4\u05e5\u05e6\u05e7", "\u05e8\u05e9\u05ea\ufffd£\ufffd×\ufffd",
  "\ufffd\ufffd\ufffd\ufffd\ufffd\ufffd\ufffd\ufffd", "\ufffd®¬½¼\ufffd«»",
  "░▒▓│┤\ufffd\ufffd\ufffd", "©╣║╗╝¢¥┐", "└┴┬├─┼\ufffd\ufffd", "╚╔╩╦╠═╬¤",
  "\ufffd\ufffd\ufffd\ufffd\ufffd\ufffd\ufffd\ufffd", "\ufffd┘┌█▄¦\ufffd▀",
  "\ufffd\ufffd\ufffd\ufffd\ufffd\ufffdµ\ufffd", "\ufffd\ufffd\ufffd\ufffd\ufffd\ufffd¯´",
  "\u00ad±‗¾¶§÷¸", "°¨·¹³²■\u00a0"]

def cp874 : List String := [
  "€\ufffd\ufffd\ufffd\ufffd…\ufffd\ufffd", "\ufffd\ufffd\ufffd\ufffd\ufffd\ufffd\ufffd\ufffd",
  "\ufffd‘’“”•–—", "\ufffd\ufffd\ufffd\ufffd\ufffd\ufffd\ufffd\ufffd", "\u00a0กขฃคฅฆง", "จฉชซฌญฎฏ",
  "ฐฑฒณดตถท", "ธนบปผฝพฟ", "ภมยรฤลฦว", "ศษสหฬอฮฯ", "ะ\u0e31าำ\u0e34\u0e35\u0e36\u0e37",
  "\u0e38\u0e39\u0e3a\ufffd\ufffd\ufffd\ufffd฿", "เแโใไๅๆ\u0e47",
  "\u0e48\u0e49\u0e4a\u0e4b\u0e4c\u0e4d\u0e4e๏", "๐๑๒๓๔๕๖๗", "๘๙๚๛\ufffd\ufffd\ufffd\ufffd"]

def iso88592 : List String := [
  "\u0080\u0081\u0082\u0083\u0084\u0085\u0086\u0087",
  "\u0088\u0089\u008a\u008b\u008c\u008d\u008e\u008f",
  "\u0090\u0091\u0092\u0093\u0094\u0095\u0096\u0097",
  "\u0098\u0099\u009a\u009b\u009c\u009d\u009e\u009f", "\u00a0Ą˘Ł¤ĽŚ§", "¨ŠŞŤŹ\u00adŽŻ", "°ą˛ł´ľśˇ",
  "¸šşťź˝žż", "ŔÁÂĂÄĹĆÇ", "ČÉĘËĚÍÎĎ", "ĐŃŇÓÔŐÖ×", "ŘŮÚŰÜÝŢß", "ŕáâăäĺćç", "čéęëěíîď", "đńňóôőö÷",
  "řůúűüýţ˙"]

def iso88593 : List String := [
  "\u0080\u0081\u0082\u0083\u0084\u0085\u0086\u0087",
  "\u0088\u0089\u008a\u008b\u008c\u008d\u008e\u008f",
  "\u0090\u0091\u0092\u0093\u0094\u0095\u0096\u0097",
  "\u0098\u0099\u009a\u009b\u009c\u009d\u009e\u009f", "\u00a0Ħ˘£¤\ufffdĤ§", "¨İŞĞĴ\u00ad\ufffdŻ",
  "°ħ²³´µĥ·", "¸ışğĵ½\ufffdż", "ÀÁÂ\ufffdÄĊĈÇ", "ÈÉÊËÌÍÎÏ", "\ufffdÑÒÓÔĠÖ×", "ĜÙÚÛÜŬŜß",
  "àáâ\ufffdäċĉç", "èéêëìíîï", "\ufffdñòóôġö÷", "ĝùúûüŭŝ˙"]

def iso88594 : List String := [
  "\u0080\u0081\u0082\u0083\u0084\u0085\u0086\u0087",
  "\u0088\u0089\u008a\u008b\u008c\u008d\u008e\u008f",
  "\u0090\u0091\u0092\u0093\u0094\u0095\u0096\u0097",
  "\u0098\u0099\u009a\u009b\u009c\u009d\u009e\u009f", "\u00a0ĄĸŖ¤ĨĻ§", "¨ŠĒĢŦ\u00adŽ¯", "°ą˛ŗ´ĩļˇ",
  "¸šēģŧŊžŋ", "ĀÁÂÃÄÅÆĮ", "ČÉĘËĖÍÎĪ", "ĐŅŌĶÔÕÖ×", "ØŲÚÛÜŨŪß", "āáâãäåæį", "čéęëėíîī", "đņōķôõö÷",
  "øųúûüũū˙"]

def iso88599 : List String := [
  "\u0080\u0081\u0082\u0083\u0084\u0085\u0086\u0087",
  "\u0088\u0089\u008a\u008b\u008c\u008d\u008e\u008f",
  "\u0090\u0091\u0092\u0093\u0094\u0095\u0096\u0097",
  "\u0098\u0099\u009a\u009b\u009c\u009d\u009e\u009f", "\u00a0¡¢£¤¥¦§", "¨©ª«¬\u00ad®¯", "°±²³´µ¶·",
  "¸¹º»¼½¾¿", "ÀÁÂÃÄÅÆÇ", "ÈÉÊËÌÍÎÏ", "ĞÑÒÓÔÕÖ×", "ØÙÚÛÜİŞß", "àáâãäåæç", "èéêëìíîï", "ğñòóôõö÷",
  "øùúûüışÿ"]

def iso885910 : List String := [
  "\u0080\u0081\u0082\u0083\u0084\u0085\u0086\u0087",
  "\u0088\u0089\u008a\u008b\u008c\u008d\u008e\u008f",
  "\u0090\u0091\u0092\u0093\u0094\u0095\u0096\u0097",
  "\u0098\u0099\u009a\u009b\u009c\u009d\u009e\u009f", "\u00a0ĄĒĢĪĨĶ§", "ĻĐŠŦŽ\u00adŪŊ", "°ąēģīĩķ·",
  "ļđšŧž―ūŋ", "ĀÁÂÃÄÅÆĮ", "ČÉĘËĖÍÎÏ", "ÐŅŌÓÔÕÖŨ", "ØŲÚÛÜÝÞß", "āáâãäåæį", "čéęëėíîï", "ðņōóôõöũ",
  "øųúûüýþĸ"]

def iso88595 : List String := [
  "\u0080\u0081\u0082\u0083\u0084\u0085\u0086\u0087",
  "\u0088\u0089\u008a\u008b\u008c\u008d\u008e\u008f",
  "\u0090\u0091\u0092\u0093\u0094\u0095\u0096\u0097",
  "\u0098\u0099\u009a\u009b\u009c\u009d\u009e\u009f", "\u00a0ЁЂЃЄЅІЇ", "ЈЉЊЋЌ\u00adЎЏ", "АБВГДЕЖЗ",
  "ИЙКЛМНОП", "РСТУФХЦЧ", "ШЩЪЫЬЭЮЯ", "абвгдежз", "ийклмноп", "рстуфхцч", "шщъыьэюя", "№ёђѓєѕії",
  "јљњћќ§ўџ"]

def iso88597 : List String := [
  "\u0080\u0081\u0082\u0083\u0084\u0085\u0086\u0087",
  "\u0088\u0089\u008a\u008b\u008c\u008d\u008e\u008f",
  "\u0090\u0091\u0092\u0093\u0094\u0095\u0096\u0097",
  "\u0098\u0099\u009a\u009b\u009c\u009d\u009e\u009f", "\u00a0‘’£€₯¦§", "¨©ͺ«¬\u00ad\ufffd―",
  "°±²³΄΅Ά·", "ΈΉΊ»Ό½ΎΏ", "ΐΑΒΓΔΕΖΗ", "ΘΙΚΛΜΝΞΟ", "ΠΡ\ufffdΣΤΥΦΧ", "ΨΩΪΫάέήί", "ΰαβγδεζη",
  "θικλμνξο", "πρςστυφχ", "ψωϊϋόύώ\ufffd"]

def iso88598 : List String := [
  "\u0080\u0081\u0082\u0083\u0084\u0085\u0086\u0087",
  "\u0088\u0089\u008a\u008b\u008c\u008d\u008e\u008f",
  "\u0090\u0091\u0092\u0093\u0094\u0095\u0096\u0097",
  "\u0098\u0099\u009a\u009b\u009c\u009d\u009e\u009f", "\u00a0\ufffd¢£¤¥¦§", "¨©×«¬\u00ad®¯",
  "°±²³´µ¶·", "¸¹÷»¼½¾\ufffd", "\ufffd\ufffd\ufffd\ufffd\ufffd\ufffd\ufffd\ufffd",
  "\ufffd\ufffd\ufffd\ufffd\ufffd\ufffd\ufffd\ufffd",
  "\ufffd\ufffd\ufffd\ufffd\ufffd\ufffd\ufffd\ufffd", "\ufffd\ufffd\ufffd\ufffd\ufffd\ufffd\ufffd‗",
  "\u05d0\u05d1\u05d2\u05d3\u05d4\u05d5\u05d6\u05d7",
  "\u05d8\u05d9\u05da\u05db\u05dc\u05dd\u05de\u05df",
  "\u05e0\u05e1\u05e2\u05e3\u05e4\u05e5\u05e6\u05e7",
  "\u05e8\u05e9\u05ea\ufffd\ufffd\u200e\u200f\ufffd"]

def koi8R : List String := [
  "─│┌┐└┘├┤", "┬┴┼▀▄█▌▐", "░▒▓⌠■∙√≈", "≤≥\u00a0⌡°²·÷", "═║╒ё╓╔╕╖", "╗╘╙╚╛╜╝╞", "╟╠╡Ё╢╣╤╥",
  "╦╧╨╩╪╫╬©", "юабцдефг", "хийклмно", "пярстужв", "ьызшэщчъ", "ЮАБЦДЕФГ", "ХИЙКЛМНО", "ПЯРСТУЖВ",
  "ЬЫЗШЭЩЧЪ"]

def iso885911 : List String := [
  "\u0080\u0081\u0082\u0083\u0084\u0085\u0086\u0087",
  "\u0088\u0089\u008a\u008b\u008c\u008d\u008e\u008f",
  "\u0090\u0091\u0092\u0093\u0094\u0095\u0096\u0097",
  "\u0098\u0099\u009a\u009b\u009c\u009d\u009e\u009f", "\u00a0กขฃคฅฆง", "จฉชซฌญฎฏ", "ฐฑฒณดตถท",
  "ธนบปผฝพฟ", "ภมยรฤลฦว", "ศษสหฬอฮฯ", "ะ\u0e31าำ\u0e34\u0e35\u0e36\u0e37",
  "\u0e38\u0e39\u0e3a\ufffd\ufffd\ufffd\ufffd฿", "เแโใไๅๆ\u0e47",
  "\u0e48\u0e49\u0e4a\u0e4b\u0e4c\u0e4d\u0e4e๏", "๐๑๒๓๔๕๖๗", "๘๙๚๛\ufffd\ufffd\ufffd\ufffd"]

def iso885913 : List String := [
  "\u0080\u0081\u0082\u0083\u0084\u0085\u0086\u0087",
  "\u0088\u0089\u008a\u008b\u008c\u008d\u008e\u008f",
  "\u0090\u0091\u0092\u0093\u0094\u0095\u0096\u0097",
  "\u0098\u0099\u009a\u009b\u009c\u009d\u009e\u009f", "\u00a0”¢£¤„¦§", "Ø©Ŗ«¬\u00ad®Æ", "°±²³“µ¶·",
  "ø¹ŗ»¼½¾æ", "ĄĮĀĆÄÅĘĒ", "ČÉŹĖĢĶĪĻ", "ŠŃŅÓŌÕÖ×", "ŲŁŚŪÜŻŽß", "ąįāćäåęē", "čéźėģķīļ", "šńņóōõö÷",
  "ųłśūüżž’"]

def iso885914 : List String := [
  "\u0080\u0081\u0082\u0083\u0084\u0085\u0086\u0087",
  "\u0088\u0089\u008a\u008b\u008c\u008d\u008e\u008f",
  "\u0090\u0091\u0092\u0093\u0094\u0095\u0096\u0097",
  "\u0098\u0099\u009a\u009b\u009c\u009d\u009e\u009f", "\u00a0Ḃḃ£ĊċḊ§", "Ẁ©ẂḋỲ\u00ad®Ÿ", "ḞḟĠġṀṁ¶Ṗ",
  "ẁṗẃṠỳẄẅṡ", "ÀÁÂÃÄÅÆÇ", "ÈÉÊËÌÍÎÏ", "ŴÑÒÓÔÕÖṪ", "ØÙÚÛÜÝŶß", "àáâãäåæç", "èéêëìíîï", "ŵñòóôõöṫ",
  "øùúûüýŷÿ"]

def iso885915 : List String := [
  "\u0080\u0081\u0082\u0083\u0084\u0085\u0086\u0087",
  "\u0088\u0089\u008a\u008b\u008c\u008d\u008e\u008f",
  "\u0090\u0091\u0092\u0093\u0094\u0095\u0096\u0097",
  "\u0098\u0099\u009a\u009b\u009c\u009d\u009e\u009f", "\u00a0¡¢£€¥Š§", "š©ª«¬\u00ad®¯", "°±²³Žµ¶·",
  "ž¹º»ŒœŸ¿", "ÀÁÂÃÄÅÆÇ", "ÈÉÊËÌÍÎÏ", "ÐÑÒÓÔÕÖ×", "ØÙÚÛÜÝÞß", "àáâãäåæç", "èéêëìíîï", "ðñòóôõö÷",
  "øùúûüýþÿ"]

def iso885916 : List String := [
  "\u0080\u0081\u0082\u0083\u0084\u0085\u0086\u0087",
  "\u0088\u0089\u008a\u008b\u008c\u008d\u008e\u008f",
  "\u0090\u0091\u0092\u0093\u0094\u0095\u0096\u0097",
  "\u0098\u0099\u009a\u009b\u009c\u009d\u009e\u009f", "\u00a0ĄąŁ€„Š§", "š©Ș«Ź\u00adźŻ", "°±ČłŽ”¶·",
  "žčș»ŒœŸż", "ÀÁÂĂÄĆÆÇ", "ÈÉÊËÌÍÎÏ", "ĐŃÒÓÔŐÖŚ", "ŰÙÚÛÜĘȚß", "àáâăäćæç", "èéêëìíîï", "đńòóôőöś",
  "űùúûüęțÿ"]

def tis620 : List String := [
  "\u0080\u0081\u0082\u0083\u0084\u0085\u0086\u0087",
  "\u0088\u0089\u008a\u008b\u008c\u008d\u008e\u008f",
  "\u0090\u0091\u0092\u0093\u0094\u0095\u0096\u0097",
  "\u0098\u0099\u009a\u009b\u009c\u009d\u009e\u009f", "\ufffdกขฃคฅฆง", "จฉชซฌญฎฏ", "ฐฑฒณดตถท",
  "ธนบปผฝพฟ", "ภมยรฤลฦว", "ศษสหฬอฮฯ", "ะ\u0e31าำ\u0e34\u0e35\u0e36\u0e37",
  "\u0e38\u0e39\u0e3a\ufffd\ufffd\ufffd\ufffd฿", "เแโใไๅๆ\u0e47",
  "\u0e48\u0e49\u0e4a\u0e4b\u0e4c\u0e4d\u0e4e๏", "๐๑๒๓๔๕๖๗", "๘๙๚๛\ufffd\ufffd\ufffd\ufffd"]

def koi8T : List String := [
  "қғ‚Ғ„…†‡", "\ufffd‰ҳ‹ҲҷҶ\ufffd", "Қ‘’“”•–—", "\ufffd™\ufffd›\ufffd\ufffd\ufffd\ufffd",
  "\ufffdӯӮё¤ӣ¦§", "\ufffd\ufffd\ufffd«¬\u00ad®\ufffd", "°±²Ё\ufffdӢ¶·",
  "\ufffd№\ufffd»\ufffd\ufffd\ufffd©", "юабцдефг", "хийклмно", "пярстужв", "ьызшэщчъ", "ЮАБЦДЕФГ",
  "ХИЙКЛМНО", "ПЯРСТУЖВ", "ЬЫЗШЭЩЧЪ"]

def koi8U : List String := [
  "─│┌┐└┘├┤", "┬┴┼▀▄█▌▐", "░▒▓⌠■∙√≈", "≤≥\u00a0⌡°²·÷", "═║╒ёє╔ії", "╗╘╙╚╛ґ╝╞", "╟╠╡ЁЄ╣ІЇ",
  "╦╧╨╩╪Ґ╬©", "юабцдефг", "хийклмно", "пярстужв", "ьызшэщчъ", "ЮАБЦДЕФГ", "ХИЙКЛМНО", "ПЯРСТУЖВ",
  "ЬЫЗШЭЩЧЪ"]

def kz1048 : List String := [
  "ЂЃ‚ѓ„…†‡", "€‰Љ‹ЊҚҺЏ", "ђ‘’“”•–—", "\ufffd™љ›њқһџ", "\u00a0ҰұӘ¤Ө¦§", "Ё©Ғ«¬\u00ad®Ү", "°±Ііөµ¶·",
  "ё№ғ»әҢңү", "АБВГДЕЖЗ", "ИЙКЛМНОП", "РСТУФХЦЧ", "ШЩЪЫЬЭЮЯ", "абвгдежз", "ийклмноп", "рстуфхцч",
  "шщъыьэюя"]

def macLatin2 : List String := [
  "ÄĀāÉĄÖÜá", "ąČäčĆćéŹ", "źĎíďĒēĖó", "ėôöõúĚěü", "†°Ę£§•¶ß", "®©™ę¨≠ģĮ", "įĪ≤≥īĶ∂∑", "łĻļĽľĹĺŅ",
  "ņŃ¬√ńŇ∆«", "»…\u00a0ňŐÕőŌ", "–—“”‘’÷◊", "ōŔŕŘ‹›řŖ", "ŗŠ‚„šŚśÁ", "ŤťÍŽžŪÓÔ", "ūŮÚůŰűŲų",
  "ÝýķŻŁżĢˇ"]

def macCroatian : List String := [
  "ÄÅÇÉÑÖÜá", "àâäãåçéè", "êëíìîïñó", "òôöõúùûü", "†°¢£§•¶ß", "®Š™´¨≠ŽØ", "∞±≤≥∆µ∂∑", "∏š∫ªºΩžø",
  "¿¡¬√ƒ≈Ć«", "Č…\u00a0ÀÃÕŒœ", "Đ—“”‘’÷◊", "\uf8ff©⁄€‹›Æ»", "–·‚„‰ÂćÁ", "čÈÍÎÏÌÓÔ", "đÒÚÛÙıˆ˜",
  "¯πË˚¸Êæˇ"]

def macCyrillic : List String := [
  "АБВГДЕЖЗ", "ИЙКЛМНОП", "РСТУФХЦЧ", "ШЩЪЫЬЭЮЯ", "†°Ґ£§•¶І", "®©™Ђђ≠Ѓѓ", "∞±≤≥іµґЈ", "ЄєЇїЉљЊњ",
  "јЅ¬√ƒ≈∆«", "»…\u00a0ЋћЌќѕ", "–—“”‘’÷„", "ЎўЏџ№Ёёя", "абвгдежз", "ийклмноп", "рстуфхцч",
  "шщъыьэю€"]

def macGreek : List String := [
  "Ä¹²É³ÖÜ΅", "àâä΄¨çéè", "êë£™îï•½", "‰ôö¦€ùûü", "†ΓΔΘΛΞΠß", "®©ΣΪ§≠°·", "Α±≤≥¥ΒΕΖ", "ΗΙΚΜΦΫΨΩ",
  "άΝ¬ΟΡ≈Τ«", "»…\u00a0ΥΧΆΈœ", "–―“”‘’÷Ή", "ΊΌΎέήίόΏ", "ύαβψδεφγ", "ηιξκλμνο", "πώρστθως",
  "χυζϊϋΐΰ\u00ad"]

def macIceland : List String := [
  "ÄÅÇÉÑÖÜá", "àâäãåçéè", "êëíìîïñó", "òôöõúùûü", "Ý°¢£§•¶ß", "®©™´¨≠ÆØ", "∞±≤≥¥µ∂∑", "∏π∫ªºΩæø",
  "¿¡¬√ƒ≈∆«", "»…\u00a0ÀÃÕŒœ", "–—“”‘’÷◊", "ÿŸ⁄€ÐðÞþ", "ý·‚„‰ÂÊÁ", "ËÈÍÎÏÌÓÔ", "\uf8ffÒÚÛÙıˆ˜",
  "¯˘˙˚¸˝˛ˇ"]

def macRoman : List String := [
  "ÄÅÇÉÑÖÜá", "àâäãåçéè", "êëíìîïñó", "òôöõúùûü", "†°¢£§•¶ß", "®©™´¨≠ÆØ", "∞±≤≥¥µ∂∑", "∏π∫ªºΩæø",
  "¿¡¬√ƒ≈∆«", "»…\u00a0ÀÃÕŒœ", "–—“”‘’÷◊", "ÿŸ⁄€‹›ﬁﬂ", "‡·‚„‰ÂÊÁ", "ËÈÍÎÏÌÓÔ", "\uf8ffÒÚÛÙıˆ˜",
  "¯˘˙˚¸˝˛ˇ"]

def macRomanian : List String := [
  "ÄÅÇÉÑÖÜá", "àâäãåçéè", "êëíìîïñó", "òôöõúùûü", "†°¢£§•¶ß", "®©™´¨≠ĂȘ", "∞±≤≥¥µ∂∑", "∏π∫ªºΩăș",
  "¿¡¬√ƒ≈∆«", "»…\u00a0ÀÃÕŒœ", "–—“”‘’÷◊", "ÿŸ⁄€‹›Țț", "‡·‚„‰ÂÊÁ", "ËÈÍÎÏÌÓÔ", "\uf8ffÒÚÛÙıˆ˜",
  "¯˘˙˚¸˝˛ˇ"]

def macTurkish : List String := [
  "ÄÅÇÉÑÖÜá", "àâäãåçéè", "êëíìîïñó", "òôöõúùûü", "†°¢£§•¶ß", "®©™´¨≠ÆØ", "∞±≤≥¥µ∂∑", "∏π∫ªºΩæø",
  "¿¡¬√ƒ≈∆«", "»…\u00a0ÀÃÕŒœ", "–—“”‘’÷◊", "ÿŸĞğİıŞş", "‡·‚„‰ÂÊÁ", "ËÈÍÎÏÌÓÔ", "\uf8ffÒÚÛÙ\uf8a0ˆ˜",
  "¯˘˙˚¸˝˛ˇ"]

def palmos : List String := [
  "€\u0081‚ƒ„…†‡", "ˆ‰Š‹Œ♦♣♥", "♠‘’“”•–—", "˜™š\u009bœ\u009d\u009eŸ", "\u00a0¡¢£¤¥¦§",
  "¨©ª«¬\u00ad®¯", "°±²³´µ¶·", "¸¹º»¼½¾¿", "ÀÁÂÃÄÅÆÇ", "ÈÉÊËÌÍÎÏ", "ÐÑÒÓÔÕÖ×", "ØÙÚÛÜÝÞß",
  "àáâãäåæç", "èéêëìíîï", "ðñòóôõö÷", "øùúûüýþÿ"]

end PointTable.Text.CodePage
