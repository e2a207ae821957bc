import ConstrainedDecoding.Text.Charset.Grid

/-!
Single-byte characters of the code pages of mainframes, which move letters and digits too.
-/

namespace ConstrainedDecoding.Text

/-- The characters of code page 037. -/
def mainframe037 : ByteTable := [
  (0x04, "\u009c\t\u0086\x7f\u0097\u008d\u008e"),
  (0x14, "\u009d\u0085\x08\u0087"),
  (0x1a, "\u0092\u008f"),
  (0x20, "\u0080\u0081\u0082\u0083\u0084\n\x17\x1b\u0088\u0089\u008a\u008b\u008c\x05\x06"),
  (0x2f, "\x07\u0090\u0091\x16\u0093\u0094\u0095\u0096\x04\u0098\u0099\u009a\u009b\x14\x15"),
  (0x3e, "\u009e\x1a \u00a0âäàáãåçñ¢.<(+|&éêëèíîïìß!$*);¬-\x2fÂÄÀÁÃÅÇÑ¦,%_>?øÉÊËÈÍÎÏÌ\x60:#@'"),
  (0x7e, "=\"Øabcdefghi«»ðýþ±°jklmnopqrªºæ¸Æ¤µ~stuvwxyz¡¿ÐÝÞ®^£¥·©§¶¼½¾[]¯¨´×\x7bABCDEFGHI"),
  (0xca, "\u00adôöòóõ\x7dJKLMNOPQR¹ûüùúÿ\\÷STUVWXYZ²ÔÖÒÓÕ0123456789³ÛÜÙÚ\u009f")]

/-- The characters of code page 273. -/
def mainframe273 : ByteTable := [
  (0x04, "\u009c\t\u0086\x7f\u0097\u008d\u008e"),
  (0x14, "\u009d\u0085\x08\u0087"),
  (0x1a, "\u0092\u008f"),
  (0x20, "\u0080\u0081\u0082\u0083\u0084\n\x17\x1b\u0088\u0089\u008a\u008b\u008c\x05\x06"),
  (0x2f, "\x07\u0090\u0091\x16\u0093\u0094\u0095\u0096\x04\u0098\u0099\u009a\u009b\x14\x15"),
  (0x3e, "\u009e\x1a \u00a0â\x7bàáãåçñÄ.<(+!&éêëèíîïì~Ü$*);^-\x2fÂ[ÀÁÃÅÇÑö,%_>?øÉÊËÈÍÎÏÌ\x60:"),
  (0x7b, "#§'=\"Øabcdefghi«»ðýþ±°jklmnopqrªºæ¸Æ¤µßstuvwxyz¡¿ÐÝÞ®¢£¥·©@¶¼½¾¬|‾¨´×äABCDEFGHI"),
  (0xca, "\u00adô¦òóõüJKLMNOPQR¹û\x7dùúÿÖ÷STUVWXYZ²Ô\\ÒÓÕ0123456789³Û]ÙÚ\u009f")]

/-- The characters of code page 424. -/
def mainframe424 : ByteTable := [
  (0x04, "\u009c\t\u0086\x7f\u0097\u008d\u008e"),
  (0x14, "\u009d\u0085\x08\u0087"),
  (0x1a, "\u0092\u008f"),
  (0x20, "\u0080\u0081\u0082\u0083\u0084\n\x17\x1b\u0088\u0089\u008a\u008b\u008c\x05\x06"),
  (0x2f, "\x07\u0090\u0091\x16\u0093\u0094\u0095\u0096\x04\u0098\u0099\u009a\u009b\x14\x15"),
  (0x3e, "\u009e\x1a \u05d0\u05d1\u05d2\u05d3\u05d4\u05d5\u05d6\u05d7\u05d8¢.<(+|&\u05d9"),
  (0x52, "\u05da\u05db\u05dc\u05dd\u05de\u05df\u05e0\u05e1!$*);¬-\x2f\u05e2\u05e3\u05e4\u05e5"),
  (0x66, "\u05e6\u05e7\u05e8\u05e9¦,%_>?\ufffd\u05ea\ufffd\ufffd\u00a0\ufffd\ufffd\ufffd‗"),
  (0x79, "\x60:#@'=\"\ufffdabcdefghi«»\ufffd\ufffd\ufffd±°jklmnopqr\ufffd\ufffd\ufffd¸"),
  (0x9e, "\ufffd¤µ~stuvwxyz\ufffd\ufffd\ufffd\ufffd\ufffd®^£¥·©§¶¼½¾[]¯¨´×\x7bABCDEFGHI"),
  (0xca, "\u00ad\ufffd\ufffd\ufffd\ufffd\ufffd\x7dJKLMNOPQR¹\ufffd\ufffd\ufffd\ufffd\ufffd"),
  (0xe0, "\\÷STUVWXYZ²\ufffd\ufffd\ufffd\ufffd\ufffd0123456789³\ufffd\ufffd\ufffd\ufffd"),
  (0xff, "\u009f")]

/-- The characters of code page 500. -/
def mainframe500 : ByteTable := [
  (0x04, "\u009c\t\u0086\x7f\u0097\u008d\u008e"),
  (0x14, "\u009d\u0085\x08\u0087"),
  (0x1a, "\u0092\u008f"),
  (0x20, "\u0080\u0081\u0082\u0083\u0084\n\x17\x1b\u0088\u0089\u008a\u008b\u008c\x05\x06"),
  (0x2f, "\x07\u0090\u0091\x16\u0093\u0094\u0095\u0096\x04\u0098\u0099\u009a\u009b\x14\x15"),
  (0x3e, "\u009e\x1a \u00a0âäàáãåçñ[.<(+!&éêëèíîïìß]$*);^-\x2fÂÄÀÁÃÅÇÑ¦,%_>?øÉÊËÈÍÎÏÌ\x60:#@'"),
  (0x7e, "=\"Øabcdefghi«»ðýþ±°jklmnopqrªºæ¸Æ¤µ~stuvwxyz¡¿ÐÝÞ®¢£¥·©§¶¼½¾¬|¯¨´×\x7bABCDEFGHI"),
  (0xca, "\u00adôöòóõ\x7dJKLMNOPQR¹ûüùúÿ\\÷STUVWXYZ²ÔÖÒÓÕ0123456789³ÛÜÙÚ\u009f")]

/-- The characters of code page 875. -/
def mainframe875 : ByteTable := [
  (0x04, "\u009c\t\u0086\x7f\u0097\u008d\u008e"),
  (0x14, "\u009d\u0085\x08\u0087"),
  (0x1a, "\u0092\u008f"),
  (0x20, "\u0080\u0081\u0082\u0083\u0084\n\x17\x1b\u0088\u0089\u008a\u008b\u008c\x05\x06"),
  (0x2f, "\x07\u0090\u0091\x16\u0093\u0094\u0095\u0096\x04\u0098\u0099\u009a\u009b\x14\x15"),
  (0x3e, "\u009e\x1a ΑΒΓΔΕΖΗΘΙ[.<(+!&ΚΛΜΝΞΟΠΡΣ]$*);^-\x2fΤΥΦΧΨΩΪΫ|,%_>?¨ΆΈΉ\u00a0ΊΌΎΏ\x60:#@'"),
  (0x7e, "=\"΅abcdefghiαβγδεζ°jklmnopqrηθικλμ´~stuvwxyzνξοπρσ£άέήϊίόύϋώςτυφχψ\x7bABCDEFGHI"),
  (0xca, "\u00adωΐΰ‘―\x7dJKLMNOPQR±½\x1a·’¦\\\x1aSTUVWXYZ²§\x1a\x1a«¬0123456789³©\x1a\x1a»"),
  (0xff, "\u009f")]

/-- The characters of code page 1026. -/
def mainframe1026 : ByteTable := [
  (0x04, "\u009c\t\u0086\x7f\u0097\u008d\u008e"),
  (0x14, "\u009d\u0085\x08\u0087"),
  (0x1a, "\u0092\u008f"),
  (0x20, "\u0080\u0081\u0082\u0083\u0084\n\x17\x1b\u0088\u0089\u008a\u008b\u008c\x05\x06"),
  (0x2f, "\x07\u0090\u0091\x16\u0093\u0094\u0095\u0096\x04\u0098\u0099\u009a\u009b\x14\x15"),
  (0x3e, "\u009e\x1a \u00a0âäàáãå\x7bñÇ.<(+!&éêëèíîïìßĞİ*);^-\x2fÂÄÀÁÃÅ[Ñş,%_>?øÉÊËÈÍÎÏÌı:ÖŞ'"),
  (0x7e, "=ÜØabcdefghi«»\x7d\x60¦±°jklmnopqrªºæ¸Æ¤µöstuvwxyz¡¿]$@®¢£¥·©§¶¼½¾¬|¯¨´×çABCDEFG"),
  (0xc8, "HI\u00adô~òóõğJKLMNOPQR¹û\\ùúÿü÷STUVWXYZ²Ô#ÒÓÕ0123456789³Û\"ÙÚ\u009f")]

/-- The characters of code page 1140. -/
def mainframe1140 : ByteTable := [
  (0x04, "\u009c\t\u0086\x7f\u0097\u008d\u008e"),
  (0x14, "\u009d\u0085\x08\u0087"),
  (0x1a, "\u0092\u008f"),
  (0x20, "\u0080\u0081\u0082\u0083\u0084\n\x17\x1b\u0088\u0089\u008a\u008b\u008c\x05\x06"),
  (0x2f, "\x07\u0090\u0091\x16\u0093\u0094\u0095\u0096\x04\u0098\u0099\u009a\u009b\x14\x15"),
  (0x3e, "\u009e\x1a \u00a0âäàáãåçñ¢.<(+|&éêëèíîïìß!$*);¬-\x2fÂÄÀÁÃÅÇÑ¦,%_>?øÉÊËÈÍÎÏÌ\x60:#@'"),
  (0x7e, "=\"Øabcdefghi«»ðýþ±°jklmnopqrªºæ¸Æ€µ~stuvwxyz¡¿ÐÝÞ®^£¥·©§¶¼½¾[]¯¨´×\x7bABCDEFGHI"),
  (0xca, "\u00adôöòóõ\x7dJKLMNOPQR¹ûüùúÿ\\÷STUVWXYZ²ÔÖÒÓÕ0123456789³ÛÜÙÚ\u009f")]

end ConstrainedDecoding.Text
