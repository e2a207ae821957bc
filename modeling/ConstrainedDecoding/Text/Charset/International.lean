import ConstrainedDecoding.Text.Charset.Grid

/-!
Single-byte characters of the ISO 8859 series.
-/

namespace ConstrainedDecoding.Text

/-- The characters of ISO 8859-2, for central Europe. -/
def latin2 : ByteTable := [
  (0xa1, "Ą˘Ł¤ĽŚ§¨ŠŞŤŹ"),
  (0xae, "ŽŻ°ą˛ł´ľśˇ¸šşťź˝žżŔÁÂĂÄĹĆÇČÉĘËĚÍÎĎĐŃŇÓÔŐÖ×ŘŮÚŰÜÝŢßŕáâăäĺćçčéęëěíîďđńňóôőö÷řůúű"),
  (0xfe, "ţ˙")]

/-- The characters of ISO 8859-3, for southern Europe. -/
def latin3 : ByteTable := [
  (0xa1, "Ħ˘£¤\ufffdĤ§¨İŞĞĴ"),
  (0xae, "\ufffdŻ°ħ"),
  (0xb6, "ĥ·¸ışğĵ½\ufffdż"),
  (0xc3, "\ufffdÄĊĈ"),
  (0xd0, "\ufffd"),
  (0xd5, "ĠÖ×Ĝ"),
  (0xdd, "ŬŜ"),
  (0xe3, "\ufffdäċĉ"),
  (0xf0, "\ufffd"),
  (0xf5, "ġö÷ĝ"),
  (0xfd, "ŭŝ˙")]

/-- The characters of ISO 8859-4, for northern Europe. -/
def latin4 : ByteTable := [
  (0xa1, "ĄĸŖ¤ĨĻ§¨ŠĒĢŦ"),
  (0xae, "Ž¯°ą˛ŗ´ĩļˇ¸šēģŧŊžŋĀ"),
  (0xc7, "ĮČÉĘËĖÍÎĪĐŅŌĶ"),
  (0xd9, "Ų"),
  (0xdd, "ŨŪßā"),
  (0xe7, "įčéęëėíîīđņōķ"),
  (0xf9, "ų"),
  (0xfd, "ũū˙")]

/-- The characters of ISO 8859-5, which has Cyrillic letters. -/
def latinCyrillic : ByteTable := [
  (0xa1, "ЁЂЃЄЅІЇЈЉЊЋЌ"),
  (0xae, "ЎЏАБВГДЕЖЗИЙКЛМНОПРСТУФХЦЧШЩЪЫЬЭЮЯабвгдежзийклмнопрстуфхцчшщъыьэюя№ёђѓєѕіїјљњћќ§"),
  (0xfe, "ўџ")]

/-- The characters of ISO 8859-6, which has Arabic letters. -/
def latinArabic : ByteTable := [
  (0xa1, "\ufffd\ufffd\ufffd¤\ufffd\ufffd\ufffd\ufffd\ufffd\ufffd\ufffd،"),
  (0xae, "\ufffd\ufffd\ufffd\ufffd\ufffd\ufffd\ufffd\ufffd\ufffd\ufffd\ufffd\ufffd\ufffd"),
  (0xbb, "\u061b\ufffd\ufffd\ufffd\u061f\ufffd\u0621\u0622\u0623\u0624\u0625\u0626\u0627"),
  (0xc8, "\u0628\u0629\u062a\u062b\u062c\u062d\u062e\u062f\u0630\u0631\u0632\u0633\u0634"),
  (0xd5, "\u0635\u0636\u0637\u0638\u0639\u063a\ufffd\ufffd\ufffd\ufffd\ufffd\u0640\u0641"),
  (0xe2, "\u0642\u0643\u0644\u0645\u0646\u0647\u0648\u0649\u064a\u064b\u064c\u064d\u064e"),
  (0xef, "\u064f\u0650\u0651\u0652\ufffd\ufffd\ufffd\ufffd\ufffd\ufffd\ufffd\ufffd\ufffd"),
  (0xfc, "\ufffd\ufffd\ufffd\ufffd")]

/-- The characters of ISO 8859-7, which has Greek letters. -/
def latinGreek : ByteTable := [
  (0xa1, "‘’£€₯"),
  (0xaa, "ͺ"),
  (0xae, "\ufffd―"),
  (0xb4, "΄΅Ά·ΈΉΊ»Ό½ΎΏΐΑΒΓΔΕΖΗΘΙΚΛΜΝΞΟΠΡ\ufffdΣΤΥΦΧΨΩΪΫάέήίΰαβγδεζηθικλμνξοπρςστυφχψωϊϋόύώ"),
  (0xff, "\ufffd")]

/-- The characters of ISO 8859-8, which has Hebrew letters. -/
def latinHebrew : ByteTable := [
  (0xa1, "\ufffd"),
  (0xaa, "×"),
  (0xba, "÷"),
  (0xbf, "\ufffd\ufffd\ufffd\ufffd\ufffd\ufffd\ufffd\ufffd\ufffd\ufffd\ufffd\ufffd\ufffd"),
  (0xcc, "\ufffd\ufffd\ufffd\ufffd\ufffd\ufffd\ufffd\ufffd\ufffd\ufffd\ufffd\ufffd\ufffd"),
  (0xd9, "\ufffd\ufffd\ufffd\ufffd\ufffd\ufffd‗\u05d0\u05d1\u05d2\u05d3\u05d4\u05d5\u05d6"),
  (0xe7, "\u05d7\u05d8\u05d9\u05da\u05db\u05dc\u05dd\u05de\u05df\u05e0\u05e1\u05e2\u05e3"),
  (0xf4, "\u05e4\u05e5\u05e6\u05e7\u05e8\u05e9\u05ea\ufffd\ufffd\u200e\u200f\ufffd")]

/-- The characters of ISO 8859-9, for Turkish. -/
def latin5 : ByteTable := [
  (0xd0, "Ğ"),
  (0xdd, "İŞ"),
  (0xf0, "ğ"),
  (0xfd, "ış")]

/-- The characters of ISO 8859-10, for Nordic languages. -/
def latin6 : ByteTable := [
  (0xa1, "ĄĒĢĪĨĶ§ĻĐŠŦŽ"),
  (0xae, "ŪŊ°ąēģīĩķ·ļđšŧž―ūŋĀ"),
  (0xc7, "ĮČÉĘËĖ"),
  (0xd1, "ŅŌ"),
  (0xd7, "ŨØŲ"),
  (0xe0, "ā"),
  (0xe7, "įčéęëė"),
  (0xf1, "ņō"),
  (0xf7, "ũøų"),
  (0xff, "ĸ")]

/-- The characters of ISO 8859-11, which has Thai letters. -/
def latinThai : ByteTable := [
  (0xa1, "กขฃคฅฆงจฉชซฌญฎฏฐฑฒณดตถทธนบปผฝพฟภมยรฤลฦวศษสหฬอฮฯะ\u0e31าำ\u0e34\u0e35\u0e36\u0e37"),
  (0xd8, "\u0e38\u0e39\u0e3a\ufffd\ufffd\ufffd\ufffd฿เแโใไๅๆ\u0e47\u0e48\u0e49\u0e4a\u0e4b"),
  (0xec, "\u0e4c\u0e4d\u0e4e๏๐๑๒๓๔๕๖๗๘๙๚๛\ufffd\ufffd\ufffd\ufffd")]

/-- The characters of TIS 620, the Thai standard. -/
def thai : ByteTable := [
  (0xa0, "\ufffdกขฃคฅฆงจฉชซฌญฎฏฐฑฒณดตถทธนบปผฝพฟภมยรฤลฦวศษสหฬอฮฯะ\u0e31าำ\u0e34\u0e35\u0e36"),
  (0xd7, "\u0e37\u0e38\u0e39\u0e3a\ufffd\ufffd\ufffd\ufffd฿เแโใไๅๆ\u0e47\u0e48\u0e49\u0e4a"),
  (0xeb, "\u0e4b\u0e4c\u0e4d\u0e4e๏๐๑๒๓๔๕๖๗๘๙๚๛\ufffd\ufffd\ufffd\ufffd")]

/-- The characters of ISO 8859-13, for Baltic languages. -/
def latin7 : ByteTable := [
  (0xa1, "”"),
  (0xa5, "„¦§Ø©Ŗ"),
  (0xaf, "Æ"),
  (0xb4, "“"),
  (0xb8, "ø¹ŗ"),
  (0xbf, "æĄĮĀĆÄÅĘĒČÉŹĖĢĶĪĻŠŃŅÓŌ"),
  (0xd8, "ŲŁŚŪÜŻŽßąįāćäåęēčéźėģķīļšńņóō"),
  (0xf8, "ųłśūüżž’")]

/-- The characters of ISO 8859-14, for Celtic languages. -/
def latin8 : ByteTable := [
  (0xa1, "Ḃḃ£ĊċḊ§Ẁ©ẂḋỲ"),
  (0xaf, "ŸḞḟĠġṀṁ¶ṖẁṗẃṠỳẄẅṡ"),
  (0xd0, "Ŵ"),
  (0xd7, "Ṫ"),
  (0xde, "Ŷ"),
  (0xf0, "ŵ"),
  (0xf7, "ṫ"),
  (0xfe, "ŷ")]

/-- The characters of ISO 8859-15, which has the euro sign. -/
def latin9 : ByteTable := [
  (0xa4, "€¥Š§š"),
  (0xb4, "Ž"),
  (0xb8, "ž"),
  (0xbc, "ŒœŸ")]

/-- The characters of ISO 8859-16, for south-eastern Europe. -/
def latin10 : ByteTable := [
  (0xa1, "ĄąŁ€„Š§š©Ș«Ź"),
  (0xae, "źŻ°±ČłŽ”¶·žčș»ŒœŸż"),
  (0xc3, "ĂÄĆ"),
  (0xd0, "ĐŃ"),
  (0xd5, "ŐÖŚŰ"),
  (0xdd, "ĘȚ"),
  (0xe3, "ăäć"),
  (0xf0, "đń"),
  (0xf5, "őöśű"),
  (0xfd, "ęț")]

end ConstrainedDecoding.Text
