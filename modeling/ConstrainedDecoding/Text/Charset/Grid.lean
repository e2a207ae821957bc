/-!
Characters laid out in rows of cells, and characters of single bytes.
-/

namespace ConstrainedDecoding.Text

/-- Characters by the numbers of row and cell, in stretches of cells with their row and first cell.
A space stands for a cell without a character. -/
abbrev Grid := List (Nat × Nat × String)

/-- The character in a cell. -/
def Grid.char? (grid : Grid) (row cell : Nat) : Option Char :=
  grid.findSome? fun (stretchRow, firstCell, chars) =>
    if stretchRow = row ∧ firstCell ≤ cell then
      chars.toList[cell - firstCell]?.filter (· ≠ ' ')
    else none

/-- Characters of single bytes, in stretches of bytes with the first of them. A byte outside stands
for the character of its own number, and the replacement character for none. -/
abbrev ByteTable := List (Nat × String)

/-- The character of a byte. -/
def ByteTable.char? (table : ByteTable) (byte : UInt8) : Option Char :=
  let listed := table.findSome? fun (firstByte, chars) =>
    if firstByte ≤ byte.toNat then chars.toList[byte.toNat - firstByte]? else none
  some (listed.getD (Char.ofNat byte.toNat)) |>.filter (· ≠ '\ufffd')

end ConstrainedDecoding.Text
