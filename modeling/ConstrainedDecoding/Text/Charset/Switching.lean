import ConstrainedDecoding.Text.Charset.China
import ConstrainedDecoding.Text.Charset.International
import ConstrainedDecoding.Text.Charset.Japan
import ConstrainedDecoding.Text.Charset.Korea

/-!
Seven-bit encodings in which escape sequences switch between sets of characters.
-/

namespace ConstrainedDecoding.Text

/-! ## Chinese characters between tildes -/

/-- The front of an HZ sequence, among Chinese characters or not. A tilde and a brace switch. -/
def frontTilde (chinese : Bool) (first : UInt8) (rest : List UInt8) : Piece × Bool :=
  if first = 0x7e then
    match chinese, rest with
    | _, [] => (.malformed 1, chinese)
    | false, 0x7e :: _ => (.char '~' 2, false)
    | false, 0x7b :: _ => (.silent 2, true)
    | false, 0x0a :: _ => (.silent 2, false)
    | true, 0x7d :: _ => (.silent 2, false)
    | _, _ => (.malformed 1, chinese)
  else if 0x80 ≤ first then (.malformed 1, chinese)
  else if chinese then (.pair simplifiedGrid.char? first rest, true)
  else (.plain first, false)

/-! ## Sets of characters called by escape sequences -/

/-- The sets that an escape sequence may call for. -/
inductive CalledSet
  | ascii
  /-- ASCII with a yen sign and an overline. -/
  | japaneseRoman
  | katakana
  | japanese
  /-- The supplementary Japanese set. -/
  | supplement
  | simplified
  | korean
  | latin1
  | greek
  deriving DecidableEq, Repr

namespace CalledSet

/-- The set that the last byte of an escape sequence stands for, which differs between sets of
single bytes and sets of two bytes. -/
def ofMark? (double : Bool) (mark : UInt8) : Option CalledSet :=
  match double, Char.ofNat mark.toNat with
  | false, 'B' => some ascii
  | false, 'J' => some japaneseRoman
  | false, 'I' => some katakana
  | false, 'A' => some latin1
  | false, 'F' => some greek
  | true, '@' | true, 'B' => some japanese
  | true, 'D' => some supplement
  | true, 'A' => some simplified
  | true, 'C' => some korean
  | _, _ => none

/-- The front of a sequence of a set. The sets that are for single characters have none. -/
def front (set : CalledSet) (first : UInt8) (rest : List UInt8) : Piece :=
  match set with
  | ascii => .plain first
  | japaneseRoman =>
    if first = 0x5c then .char '¥' 1 else if first = 0x7e then .char '‾' 1 else .plain first
  | katakana => .ofChar? (katakana? (first.toNat + 0x80)) 1 1
  | japanese => double japaneseGrid
  | supplement => double japaneseSupplement
  | simplified => double simplifiedGrid
  | korean => double koreanGrid
  | latin1 | greek => .malformed 1
where
  double (grid : Grid) : Piece :=
    match rest with
    | [] => .malformed 1
    | second :: _ => .ofChar? (grid.char? first.toNat second.toNat) 2 2

/-- Characters of ISO 8859-7 that are more recent than its registration for escape sequences. -/
def recentGreek : List UInt8 := [0xa4, 0xa5, 0xaa]

/-- The single character that a byte stands for in a set. -/
def single? (set : CalledSet) (byte : UInt8) : Option Char :=
  match set with
  | latin1 => if byte < 0x80 then some (Char.ofNat (byte.toNat + 0x80)) else none
  | greek =>
    let high := byte ^^^ 0x80
    if recentGreek.contains high then none else latinGreek.char? high
  | ascii => if byte < 0x80 then some (Char.ofNat byte.toNat) else none
  | _ => none

end CalledSet

/-- Which sets an encoding has, whether an announcement may precede an escape sequence, and whether
there are shifts and single characters of a third set. -/
structure SwitchingRules where
  sets : List CalledSet
  announcements : Bool := true
  shifts : Bool := false
  singles : Bool := false

/-- What escape sequences and shifts have established. Within a foreign escape sequence every byte
stands for itself. -/
structure SwitchingState where
  main : CalledSet := .ascii
  shifted : CalledSet := .ascii
  single : CalledSet := .ascii
  isShifted : Bool := false
  isForeign : Bool := false
  deriving DecidableEq, Repr

/-- The length of an escape sequence. -/
inductive EscapeLength
  | complete (length : Nat)
  | cut
  | endless
  deriving DecidableEq, Repr

/-- Whether a byte ends an escape sequence. -/
def endsEscape (byte : UInt8) : Bool :=
  0x40 ≤ byte && byte ≤ 0x5a

/-- The length of an escape sequence of which some bytes have been seen. With announcements, an
ampersand and an at sign do not end it, nor does the byte after them. -/
def escapeLength (announcements : Bool) (seen : Nat) (bytes : List UInt8) : EscapeLength :=
  if 16 ≤ seen then .endless
  else
    match announcements, bytes with
    | _, [] => .cut
    | true, 0x26 :: 0x40 :: _ :: rest => escapeLength true (seen + 3) rest
    | true, [0x26, 0x40] => if 13 ≤ seen then .endless else .cut
    | _, byte :: rest =>
      if endsEscape byte then .complete (seen + 1) else escapeLength announcements (seen + 1) rest

/-- Where the bytes after an escape character, all but the last of them, put the set that the last
one calls for, and whether that is a set of two bytes. -/
def calledPlace? (rules : SwitchingRules) :
    List UInt8 → Option (Bool × (SwitchingState → CalledSet → SwitchingState))
  | [0x24] | [0x24, 0x28] => some (true, fun state set => { state with main := set })
  | [0x24, 0x29] => some (true, fun state set => { state with shifted := set })
  | [0x28] => some (false, fun state set => { state with main := set })
  | [0x29] => some (false, fun state set => { state with shifted := set })
  | [0x2e] =>
    if rules.singles then some (false, fun state set => { state with single := set }) else none
  | [_, _, 0x1b, 0x24] =>
    if rules.announcements then some (true, fun state set => { state with main := set }) else none
  | _ => none

/-- The state after an escape sequence, given its bytes after the escape character. -/
def callSet? (rules : SwitchingRules) (state : SwitchingState) (sequence : List UInt8) :
    Option SwitchingState := do
  let mark ← sequence.getLast?
  let (double, place) ← calledPlace? rules sequence.dropLast
  let set ← CalledSet.ofMark? double mark
  if sequence.length = 5 ∧ mark ≠ 0x42 then none
  else if set = .ascii ∨ set ∈ rules.sets then some (place state set)
  else none

/-- The front of a sequence after an escape character. -/
def frontEscape (rules : SwitchingRules) (state : SwitchingState) (rest : List UInt8) :
    Piece × SwitchingState :=
  match rest with
  | [] => (.malformed 1, state)
  | next :: more =>
    if [0x24, 0x26, 0x28, 0x29, 0x2e].contains next then
      match escapeLength rules.announcements 1 rest with
      | .cut => (.cut rest, state)
      | .endless => (.malformed 1, state)
      | .complete length =>
        match callSet? rules state (rest.take (length - 1)) with
        | some called => (.silent length, called)
        | none => (.malformed length, state)
    else if rules.singles ∧ next = 0x4e then
      match more with
      | [] => (.cut rest, state)
      | byte :: _ => (.ofChar? (state.single.single? byte) 3 3, state)
    else (.plain 0x1b, { state with isForeign := true })

/-- The front of a sequence with escape sequences. -/
def frontSwitching (rules : SwitchingRules) (state : SwitchingState) (first : UInt8)
    (rest : List UInt8) : Piece × SwitchingState :=
  if state.isForeign then (.plain first, { state with isForeign := !endsEscape first })
  else if first = 0x1b then frontEscape rules state rest
  else if first = 0x0a then (.plain first, { state with isShifted := false })
  else if rules.shifts ∧ first = 0x0f then (.silent 1, { state with isShifted := false })
  else if rules.shifts ∧ first = 0x0e then (.silent 1, { state with isShifted := true })
  else if first < 0x20 then (.plain first, state)
  else if 0x80 ≤ first then (.malformed 1, state)
  else ((if state.isShifted then state.shifted else state.main).front first rest, state)

/-- Reads an encoding with escape sequences. -/
def readSwitching (rules : SwitchingRules) (bytes : List UInt8) : Reading :=
  readFrom (frontSwitching rules) {} 0 bytes

/-! ## The encodings with escape sequences -/

def japaneseRules : SwitchingRules := { sets := [.japanese, .japaneseRoman] }

def japaneseRules1 : SwitchingRules :=
  { sets := [.japanese, .supplement, .japaneseRoman] }

def japaneseRules2 : SwitchingRules :=
  { sets := [.japanese, .supplement, .korean, .simplified, .japaneseRoman, .latin1, .greek]
    singles := true }

def japaneseRulesExtended : SwitchingRules :=
  { sets := [.japanese, .supplement, .japaneseRoman, .katakana] }

def koreanRules : SwitchingRules :=
  { sets := [.korean], announcements := false, shifts := true }

end ConstrainedDecoding.Text
