import ConstrainedDecoding.Text.Charset.Grid

/-!
Characters that vendors added to Big5.
-/

namespace ConstrainedDecoding.Text

/-- The characters of code page 950 that differ from those of Big5 or are not among them. -/
def traditionalVendor : Grid := [
  (0xa1, 0x45, "‧"),
  (0xa1, 0x4e, "﹑"),
  (0xa1, 0xc2, "¯"),
  (0xa1, 0xe3, "～"),
  (0xa1, 0xf2, "⊕⊙"),
  (0xa2, 0x41, "∕﹨ ￥ ￠￡"),
  (0xa3, 0xe1, "€"),
  (0xf9, 0xd6, "碁銹裏墻恒粧嫺╔╦╗╠╬╣╚╩╝╒╤╕╞╪╡╘╧╛╓╥╖╟╫╢╙╨╜║═╭╮╰╯▓")]

end ConstrainedDecoding.Text
