import ConstrainedDecoding.Text.Charset.Grid

/-!
Single-byte characters of the code pages of Windows.
-/

namespace ConstrainedDecoding.Text

/-- The characters of code page 874, for Thai. -/
def windows874 : ByteTable := [
  (0x80, "€\ufffd\ufffd\ufffd\ufffd…\ufffd\ufffd\ufffd\ufffd\ufffd\ufffd\ufffd\ufffd\ufffd"),
  (0x8f, "\ufffd\ufffd‘’“”•–—\ufffd\ufffd\ufffd\ufffd\ufffd\ufffd\ufffd\ufffd"),
  (0xa1, "กขฃคฅฆงจฉชซฌญฎฏฐฑฒณดตถทธนบปผฝพฟภมยรฤลฦวศษสหฬอฮฯะ\u0e31าำ\u0e34\u0e35\u0e36\u0e37"),
  (0xd8, "\u0e38\u0e39\u0e3a\ufffd\ufffd\ufffd\ufffd฿เแโใไๅๆ\u0e47\u0e48\u0e49\u0e4a\u0e4b"),
  (0xec, "\u0e4c\u0e4d\u0e4e๏๐๑๒๓๔๕๖๗๘๙๚๛\ufffd\ufffd\ufffd\ufffd")]

/-- The characters of code page 1250, for central Europe. -/
def windows1250 : ByteTable := [
  (0x80, "€\ufffd‚\ufffd„…†‡\ufffd‰Š‹ŚŤŽŹ\ufffd‘’“”•–—\ufffd™š›śťžź"),
  (0xa1, "ˇ˘Ł¤Ą"),
  (0xaa, "Ş"),
  (0xaf, "Ż°±˛ł"),
  (0xb9, "ąş»Ľ˝ľżŔÁÂĂÄĹĆÇČÉĘËĚÍÎĎĐŃŇÓÔŐÖ×ŘŮÚŰÜÝŢßŕáâăäĺćçčéęëěíîďđńňóôőö÷řůúűüýţ˙")]

/-- The characters of code page 1251, which has Cyrillic letters. -/
def windows1251 : ByteTable := [
  (0x80, "ЂЃ‚ѓ„…†‡€‰Љ‹ЊЌЋЏђ‘’“”•–—\ufffd™љ›њќћџ"),
  (0xa1, "ЎўЈ¤Ґ¦§Ё©Є"),
  (0xaf, "Ї°±Ііґ"),
  (0xb8, "ё№є»јЅѕїАБВГДЕЖЗИЙКЛМНОПРСТУФХЦЧШЩЪЫЬЭЮЯабвгдежзийклмнопрстуфхцчшщъыьэюя")]

/-- The characters of code page 1252, for western Europe. -/
def windows1252 : ByteTable := [
  (0x80, "€\ufffd‚ƒ„…†‡ˆ‰Š‹Œ\ufffdŽ\ufffd\ufffd‘’“”•–—˜™š›œ\ufffdžŸ")]

/-- The characters of code page 1253, which has Greek letters. -/
def windows1253 : ByteTable := [
  (0x80, "€\ufffd‚ƒ„…†‡\ufffd‰\ufffd‹\ufffd\ufffd\ufffd\ufffd\ufffd‘’“”•–—\ufffd™\ufffd›"),
  (0x9c, "\ufffd\ufffd\ufffd\ufffd"),
  (0xa1, "΅Ά"),
  (0xaa, "\ufffd"),
  (0xaf, "―"),
  (0xb4, "΄"),
  (0xb8, "ΈΉΊ»Ό½ΎΏΐΑΒΓΔΕΖΗΘΙΚΛΜΝΞΟΠΡ\ufffdΣΤΥΦΧΨΩΪΫάέήίΰαβγδεζηθικλμνξοπρςστυφχψωϊϋόύώ"),
  (0xff, "\ufffd")]

/-- The characters of code page 1254, for Turkish. -/
def windows1254 : ByteTable := [
  (0x80, "€\ufffd‚ƒ„…†‡ˆ‰Š‹Œ\ufffd\ufffd\ufffd\ufffd‘’“”•–—˜™š›œ\ufffd\ufffdŸ"),
  (0xd0, "Ğ"),
  (0xdd, "İŞ"),
  (0xf0, "ğ"),
  (0xfd, "ış")]

/-- The characters of code page 1255, which has Hebrew letters. -/
def windows1255 : ByteTable := [
  (0x80, "€\ufffd‚ƒ„…†‡ˆ‰\ufffd‹\ufffd\ufffd\ufffd\ufffd\ufffd‘’“”•–—˜™\ufffd›\ufffd\ufffd"),
  (0x9e, "\ufffd\ufffd"),
  (0xa4, "₪"),
  (0xaa, "×"),
  (0xba, "÷"),
  (0xc0, "\u05b0\u05b1\u05b2\u05b3\u05b4\u05b5\u05b6\u05b7\u05b8\u05b9\ufffd\u05bb\u05bc"),
  (0xcd, "\u05bd\u05be\u05bf\u05c0\u05c1\u05c2\u05c3\u05f0\u05f1\u05f2\u05f3\u05f4\ufffd"),
  (0xda, "\ufffd\ufffd\ufffd\ufffd\ufffd\ufffd\u05d0\u05d1\u05d2\u05d3\u05d4\u05d5\u05d6"),
  (0xe7, "\u05d7\u05d8\u05d9\u05da\u05db\u05dc\u05dd\u05de\u05df\u05e0\u05e1\u05e2\u05e3"),
  (0xf4, "\u05e4\u05e5\u05e6\u05e7\u05e8\u05e9\u05ea\ufffd\ufffd\u200e\u200f\ufffd")]

/-- The characters of code page 1256, which has Arabic letters. -/
def windows1256 : ByteTable := [
  (0x80, "€\u067e‚ƒ„…†‡ˆ‰\u0679‹Œ\u0686\u0698\u0688\u06af‘’“”•–—\u06a9™\u0691›œ\u200c"),
  (0x9e, "\u200d\u06ba"),
  (0xa1, "،"),
  (0xaa, "\u06be"),
  (0xba, "\u061b"),
  (0xbf, "\u061f\u06c1\u0621\u0622\u0623\u0624\u0625\u0626\u0627\u0628\u0629\u062a\u062b"),
  (0xcc, "\u062c\u062d\u062e\u062f\u0630\u0631\u0632\u0633\u0634\u0635\u0636×\u0637\u0638"),
  (0xda, "\u0639\u063a\u0640\u0641\u0642\u0643à\u0644â\u0645\u0646\u0647\u0648"),
  (0xec, "\u0649\u064aîï\u064b\u064c\u064d\u064eô\u064f\u0650÷\u0651ù\u0652ûü\u200e\u200f"),
  (0xff, "\u06d2")]

/-- The characters of code page 1257, for Baltic languages. -/
def windows1257 : ByteTable := [
  (0x80, "€\ufffd‚\ufffd„…†‡\ufffd‰\ufffd‹\ufffd¨ˇ¸\ufffd‘’“”•–—\ufffd™\ufffd›\ufffd¯˛"),
  (0x9f, "\ufffd"),
  (0xa1, "\ufffd"),
  (0xa5, "\ufffd¦§Ø©Ŗ"),
  (0xaf, "Æ"),
  (0xb8, "ø¹ŗ"),
  (0xbf, "æĄĮĀĆÄÅĘĒČÉŹĖĢĶĪĻŠŃŅÓŌ"),
  (0xd8, "ŲŁŚŪÜŻŽßąįāćäåęēčéźėģķīļšńņóō"),
  (0xf8, "ųłśūüżž˙")]

/-- The characters of code page 1258, for Vietnamese. -/
def windows1258 : ByteTable := [
  (0x80, "€\ufffd‚ƒ„…†‡ˆ‰\ufffd‹Œ\ufffd\ufffd\ufffd\ufffd‘’“”•–—˜™\ufffd›œ\ufffd\ufffdŸ"),
  (0xc3, "Ă"),
  (0xcc, "\u0300"),
  (0xd0, "ĐÑ\u0309ÓÔƠ"),
  (0xdd, "Ư\u0303"),
  (0xe3, "ă"),
  (0xec, "\u0301"),
  (0xf0, "đñ\u0323óôơ"),
  (0xfd, "ư₫")]

end ConstrainedDecoding.Text
