/-!
Reading bytes as characters, piece by piece: what stands at the front of the bytes that are left
decides how many of them it takes up.
-/

namespace ConstrainedDecoding.Text

/-- The characters of a byte sequence in order, with nothing in place of each malformed stretch. -/
abbrev Reading := List (Option Char)

namespace Reading

/-- The characters, with a replacement character for each malformed stretch. -/
def lenient (reading : Reading) : List Char :=
  reading.map (·.getD '\ufffd')

/-- The characters, if there is no malformed stretch. -/
def strict? : Reading → Option (List Char)
  | [] => some []
  | none :: _ => none
  | some c :: rest => (strict? rest).map (c :: ·)

end Reading

/-- What stands at the front of a byte sequence, and the number of its bytes. -/
structure Piece where
  reading : Reading
  length : Nat
  deriving DecidableEq, Repr

namespace Piece

def char (c : Char) (length : Nat) : Piece := ⟨[some c], length⟩

/-- A piece that only changes how later bytes are read. -/
def silent (length : Nat) : Piece := ⟨[], length⟩

def malformed (length : Nat) : Piece := ⟨[none], length⟩

/-- A piece whose bytes end too early, given those after its first one. -/
def cut (rest : List UInt8) : Piece := malformed (rest.length + 1)

/-- The byte as the character of the same number. -/
def plain (byte : UInt8) : Piece := char (Char.ofNat byte.toNat) 1

/-- A character of some length. Without one, the first bytes are malformed, as many as given. -/
def ofChar? (c? : Option Char) (length wrong : Nat) : Piece :=
  match c? with
  | some c => char c length
  | none => malformed wrong

/-- A character of two bytes, unless they end too early. Without one, the first byte is malformed.
-/
def pair (char? : Nat → Nat → Option Char) (first : UInt8) : List UInt8 → Piece
  | [] => malformed 1
  | second :: _ => ofChar? (char? first.toNat second.toNat) 2 1

end Piece

/-- Reads piece by piece. A piece is found from its first byte, the bytes after it and a state that
earlier pieces have established. The bytes of a piece are passed over by counting down `skip`. -/
def readFrom {σ : Type} (front : σ → UInt8 → List UInt8 → Piece × σ) (state : σ) (skip : Nat) :
    List UInt8 → Reading
  | [] => []
  | first :: rest =>
    match skip with
    | skip + 1 => readFrom front state skip rest
    | 0 =>
      let (piece, next) := front state first rest
      piece.reading ++ readFrom front next (piece.length - 1) rest

/-- Reads piece by piece, each for itself. -/
def readPieces (front : UInt8 → List UInt8 → Piece) (bytes : List UInt8) : Reading :=
  readFrom (fun (_ : Unit) first rest => (front first rest, ())) () 0 bytes

/-- Reads byte by byte. -/
def readBytes (char? : UInt8 → Option Char) (bytes : List UInt8) : Reading :=
  bytes.map char?

end ConstrainedDecoding.Text
