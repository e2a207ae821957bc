import ConstrainedDecoding.Text.Charset.Grid

/-!
Further sets of single-byte characters.
-/

namespace ConstrainedDecoding.Text

/-- The characters of KOI8-R, for Russian. -/
def koi8Russian : ByteTable := [
  (0x80, "─│┌┐└┘├┤┬┴┼▀▄█▌▐░▒▓⌠■∙√≈≤≥\u00a0⌡°²·÷═║╒ё╓╔╕╖╗╘╙╚╛╜╝╞╟╠╡Ё╢╣╤╥╦╧╨╩╪╫╬©юабцдефгхий"),
  (0xcb, "клмнопярстужвьызшэщчъЮАБЦДЕФГХИЙКЛМНОПЯРСТУЖВЬЫЗШЭЩЧЪ")]

/-- The characters of KOI8-U, for Ukrainian. -/
def koi8Ukrainian : ByteTable := [
  (0x80, "─│┌┐└┘├┤┬┴┼▀▄█▌▐░▒▓⌠■∙√≈≤≥\u00a0⌡°²·÷═║╒ёє╔ії╗╘╙╚╛ґ╝╞╟╠╡ЁЄ╣ІЇ╦╧╨╩╪Ґ╬©юабцдефгхий"),
  (0xcb, "клмнопярстужвьызшэщчъЮАБЦДЕФГХИЙКЛМНОПЯРСТУЖВЬЫЗШЭЩЧЪ")]

/-- The characters of KOI8-T, for Tajik. -/
def koi8Tajik : ByteTable := [
  (0x80, "қғ‚Ғ„…†‡\ufffd‰ҳ‹ҲҷҶ\ufffdҚ‘’“”•–—\ufffd™\ufffd›\ufffd\ufffd\ufffd\ufffd\ufffdӯӮ"),
  (0xa3, "ё¤ӣ¦§\ufffd\ufffd\ufffd"),
  (0xaf, "\ufffd"),
  (0xb3, "Ё\ufffdӢ¶·\ufffd№\ufffd»\ufffd\ufffd\ufffd©юабцдефгхийклмнопярстужвьызшэщчъЮАБЦД"),
  (0xe5, "ЕФГХИЙКЛМНОПЯРСТУЖВЬЫЗШЭЩЧЪ")]

/-- The characters of KZ-1048, for Kazakh. -/
def kazakh1048 : ByteTable := [
  (0x80, "ЂЃ‚ѓ„…†‡€‰Љ‹ЊҚҺЏђ‘’“”•–—\ufffd™љ›њқһџ"),
  (0xa1, "ҰұӘ¤Ө¦§Ё©Ғ"),
  (0xaf, "Ү°±Ііө"),
  (0xb8, "ё№ғ»әҢңүАБВГДЕЖЗИЙКЛМНОПРСТУФХЦЧШЩЪЫЬЭЮЯабвгдежзийклмнопрстуфхцчшщъыьэюя")]

/-- The characters of PT154, for the Cyrillic letters of Asia. -/
def asianCyrillic : ByteTable := [
  (0x80, "ҖҒӮғ„…ҶҮҲүҠӢҢҚҺҸҗ‘’“”•–—ҳҷҡӣңқһҹ"),
  (0xa1, "ЎўЈӨҘҰ§Ё©Ә«¬ӯ®Ҝ°ұІіҙө¶·ё№ә»јҪҫҝАБВГДЕЖЗИЙКЛМНОПРСТУФХЦЧШЩЪЫЬЭЮЯабвгдежзийклмнопр"),
  (0xf1, "стуфхцчшщъыьэюя")]

/-- The characters of Roman-8. -/
def roman8 : ByteTable := [
  (0xa1, "ÀÂÈÊËÎÏ´ˋˆ¨˜ÙÛ₤¯Ýý°ÇçÑñ¡¿¤£¥§ƒ¢âêôûáéóúàèòùäëöüÅîØÆåíøæÄìÖÜÉïßÔÁÃãÐðÍÌÓÒÕõŠšÚŸÿÞ"),
  (0xf1, "þ·µ¶¾—¼½ªº«■»±\ufffd")]

/-- The characters of Palm OS. -/
def palm : ByteTable := [
  (0x80, "€"),
  (0x82, "‚ƒ„…†‡ˆ‰Š‹Œ♦♣♥♠‘’“”•–—˜™š"),
  (0x9c, "œ"),
  (0x9f, "Ÿ")]

end ConstrainedDecoding.Text
