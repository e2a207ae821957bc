import ConstrainedDecoding.Text.Half

/-!
Labels of international host names in ASCII. A label with characters beyond ASCII keeps its ASCII
characters in front; behind them the others are listed in the order of their code points, each by
how far it lies from the one before when code point and position are counted together. The distances
are numerals in base 36 of which every digit has a threshold of its own; the thresholds adapt to the
distances seen.
-/

namespace ConstrainedDecoding.Punycode

/-- The digits `a` to `z` and then `0` to `9`. -/
def digit (value : Nat) : Char :=
  if value < 26 then Char.ofNat (97 + value) else Char.ofNat (22 + value)

/-- The threshold of the digit at a place, between 1 and 26. -/
def threshold (bias place : Nat) : Nat :=
  max 1 (min 26 (place - bias))

/-- The numeral for a distance. A digit below its threshold is the last. The fuel bounds the number
of digits. -/
def numeral (bias : Nat) : (fuel place distance : Nat) → List Char
  | 0, _, _ => []
  | fuel + 1, place, distance =>
    let least := threshold bias place
    if distance < least then [digit distance]
    else
      digit (least + (distance - least) % (36 - least)) ::
        numeral bias fuel (place + 36) ((distance - least) / (36 - least))

/-- Scales a distance down to at most 455, counting the steps by 36. -/
def scaleDown : (fuel distance steps : Nat) → Nat × Nat
  | 0, distance, steps => (distance, steps)
  | fuel + 1, distance, steps =>
    if 455 < distance then scaleDown fuel (distance / 35) (steps + 36) else (distance, steps)

/-- The thresholds' bias after a distance, where `placed` characters are in place. -/
def adapt (distance placed : Nat) (first : Bool) : Nat :=
  let damped := if first then distance / 700 else distance / 2
  let (scaled, steps) := scaleDown damped (damped + damped / placed) 0
  steps + 36 * scaled / (scaled + 38)

/-- How far the encoding has come. -/
structure Progress where
  written : List Char
  distance : Nat := 0
  bias : Nat := 72
  placed : Nat
  first : Bool := true

/-- Passes one character of the label while the given code point is being placed. -/
def pass (code : Nat) (progress : Progress) (c : Char) : Progress :=
  if c.toNat < code then { progress with distance := progress.distance + 1 }
  else if c.toNat = code then {
    written := progress.written ++
      numeral progress.bias (progress.distance + 1) 36 progress.distance
    distance := 0
    bias := adapt progress.distance (progress.placed + 1) progress.first
    placed := progress.placed + 1
    first := false }
  else progress

/-- Places the code points, which are given in rising order, in turn; `next` is the lowest one that
the distance so far stands for. -/
def place (label : List Char) (next : Nat) (progress : Progress) : List Nat → List Char
  | [] => progress.written
  | code :: rest =>
    let reached := { progress with
      distance := progress.distance + (code - next) * (progress.placed + 1) }
    let passed := label.foldl (pass code) reached
    place label (code + 1) { passed with distance := passed.distance + 1 } rest

def isAscii (c : Char) : Bool := c.toNat < 0x80

/-- The code points beyond ASCII in rising order, each once. -/
def wideCodes (label : List Char) : List Nat :=
  ((label.filter (!isAscii ·)).map Char.toNat).mergeSort.eraseDups

/-- The encoded form of a label. -/
def encode (label : List Char) : List Char :=
  let plain := label.filter isAscii
  (if plain.isEmpty then [] else plain ++ ['-']) ++
    place label 0x80 { written := [], placed := plain.length } (wideCodes label)

/-! ## Decoding -/

/-- The value of a digit. -/
def digitValue? (c : Char) : Option Nat :=
  if 'a' ≤ c ∧ c ≤ 'z' then some (c.toNat - 97)
  else if '0' ≤ c ∧ c ≤ '9' then some (c.toNat - 22)
  else none

/-- Reads the distance at the front, of which so much has been read, and what follows it. -/
def readDistance (bias place weight distance : Nat) : List Char → Option (Nat × List Char)
  | [] => none
  | c :: rest => do
    let value ← digitValue? c
    let least := threshold bias place
    let reached := distance + value * weight
    if value < least then some (reached, rest)
    else readDistance bias (place + 36) (weight * (36 - least)) reached rest

/-- Puts the characters of the distances in place, from the code point and the position reached, as
far as there are distances to read. A question mark goes in place of a code point that is too large.
The second result tells whether all distances make sense. The fuel bounds their number. -/
def putAll (label : List Char) (code position bias : Nat) (first : Bool) :
    (fuel : Nat) → List Char → List Char × Bool
  | _, [] => (label, true)
  | 0, _ => (label, false)
  | fuel + 1, chars =>
    match readDistance bias 36 1 0 chars with
    | none => (label, false)
    | some (distance, rest) =>
      let count := label.length + 1
      let reached := code + (position + distance) / count
      let next := if 0x10ffff < reached then '?'.toNat else reached
      let place := (position + distance) % count
      let (whole, isWhole) :=
        putAll (label.take place ++ Text.charOf next :: label.drop place) next (place + 1)
          (adapt distance count first) false fuel rest
      (whole, isWhole && reached ≤ 0x10ffff)

/-- The plain characters and the digits of an encoded form, which are before and after its last
hyphen. -/
def split (encoded : List Char) : List Char × List Char :=
  ((encoded.reverse.dropWhile (· ≠ '-')).tail.reverse,
    (encoded.reverse.takeWhile (· ≠ '-')).reverse)

/-- The label that an encoded form stands for. -/
def decode? (encoded : List Char) : Option (List Char) :=
  let (plain, digits) := split encoded
  let (label, isWhole) := putAll plain 0x80 0 72 true digits.length digits
  if isWhole then some label else none

end ConstrainedDecoding.Punycode
