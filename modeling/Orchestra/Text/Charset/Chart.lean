import Orchestra.Text.Charset.Unicode

/-!
Sets in which a character may take several bytes: charts of rows and cells, and the reading of bytes
piece by piece.
-/

namespace Orchestra.Text.Charset

/-- The rows of a chart that are in use, each with its number and the characters of its cells. A blank
stands for a cell that is not used. -/
structure Chart where
  rows : List (Nat × List String)

/-- The character of a cell, cells counted from zero. -/
def Chart.char? (chart : Chart) (row cell : Nat) : Option Char :=
  (chart.rows.lookup row).bind fun parts =>
    ((parts.flatMap String.toList)[cell]?).filter (· != ' ')

/-- The character of a cell in rows and cells that both count bytes from 0xA1. -/
def Chart.square? (chart : Chart) (first second : Nat) : Option Char :=
  if 0xA1 ≤ first && 0xA1 ≤ second then chart.char? (first - 0xA0) (second - 0xA1) else none

/-- What stands at the start of some bytes. -/
inductive Piece where
  /-- Characters that take some bytes. -/
  | glyphs (characters : List Char) (length : Nat)
  /-- Bytes that are no character. -/
  | wrong (length : Nat)
  /-- A character whose last bytes are missing. -/
  | cut
deriving DecidableEq, Repr

namespace Piece

/-- One byte that is a character. -/
def single (code : Nat) : Piece :=
  .glyphs [Char.ofNat code] 1

/-- The characters that some bytes may be; a first byte that leads to none is wrong. -/
def ofOption (length : Nat) : Option (List Char) → Piece
  | some characters => .glyphs characters length
  | none => .wrong 1

/-- A character of two bytes, or one of ASCII. -/
def pair (chars? : Nat → Nat → Option (List Char)) : List Nat → Piece
  | [] => .cut
  | first :: rest =>
    if first < 0x80 then single first
    else
      match rest with
      | [] => .cut
      | second :: _ => ofOption 2 (chars? first second)

end Piece

section Reading

variable {Shift : Type}

/-- The characters of some bytes, piece by piece. What a piece is may hang on what was shifted to
before; `fuel` bounds the pieces. -/
def readPieces (piece : Shift → List Nat → Piece × Shift) :
    (fuel : Nat) → Shift → List Nat → Glyphs
  | 0, _, _ => []
  | _ + 1, _, [] => []
  | fuel + 1, shift, bytes =>
    match piece shift bytes with
    | (.glyphs characters length, shift) =>
      characters.map some ++ readPieces piece fuel shift (bytes.drop length)
    | (.wrong length, shift) => none :: readPieces piece fuel shift (bytes.drop length)
    | (.cut, _) => [none]

/-- The characters of bytes that are read from a start on. -/
def shifting (piece : Shift → List Nat → Piece × Shift) (start : Shift) (bytes : List UInt8) :
    Glyphs :=
  readPieces piece bytes.length start (bytes.map UInt8.toNat)

end Reading

/-- The characters of bytes whose pieces do not hang on each other. -/
def pieces (piece : List Nat → Piece) : List UInt8 → Glyphs :=
  shifting (fun (_ : Unit) bytes => (piece bytes, ())) ()

end Orchestra.Text.Charset
