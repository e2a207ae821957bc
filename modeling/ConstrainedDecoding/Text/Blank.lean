/-!
Blank characters, and cutting texts at them. Reading a number from a text skips the blanks of every
script at both ends; reading one from bytes skips the six ASCII blanks only.
-/

namespace ConstrainedDecoding.Text

/-- Code points of the blank characters outside ASCII. -/
def wideBlanks : List Nat :=
  [0x85, 0xa0, 0x1680, 0x2000, 0x2001, 0x2002, 0x2003, 0x2004, 0x2005, 0x2006, 0x2007, 0x2008,
   0x2009, 0x200a, 0x2028, 0x2029, 0x202f, 0x205f, 0x3000]

/-- Tab, the line and page breaks, and the space. -/
def isAsciiBlank (c : Char) : Bool :=
  (9 ≤ c.toNat && c.toNat ≤ 13) || c = ' '

/-- A blank character of any script. -/
def isBlank (c : Char) : Bool :=
  isAsciiBlank c || wideBlanks.contains c.toNat

/-- The characters without those at either end that satisfy the condition. -/
def trimBoth (drop : Char → Bool) (content : List Char) : List Char :=
  ((content.dropWhile drop).reverse.dropWhile drop).reverse

/-- The characters without those at the end that satisfy the condition. -/
def trimEnd (drop : Char → Bool) (content : List Char) : List Char :=
  (content.reverse.dropWhile drop).reverse

/-- The parts of a text before and after the first space, if it holds one. -/
def splitAtSpace? (text : String) : Option (String × String) :=
  let chars := text.toList
  match chars.dropWhile (· ≠ ' ') with
  | [] => none
  | _ :: after => some (String.ofList (chars.takeWhile (· ≠ ' ')), String.ofList after)

end ConstrainedDecoding.Text
