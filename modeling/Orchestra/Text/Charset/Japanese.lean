import Orchestra.Text.Charset.JapaneseChart

/-!
Japanese sets: the planes of the standards, and the two families of forms in which they are written.
-/

namespace Orchestra.Text.Charset

namespace Japanese

/-- A plane of characters by row and cell. -/
abbrev Plane := Nat → Nat → Option (List Char)

def ofChart (chart : Chart) : Plane :=
  fun row cell => (chart.char? row cell).map ([·])

/-- One plane where it has a character, else another. -/
def orElse (plane other : Plane) : Plane :=
  fun row cell => (plane row cell).or (other row cell)

/-- The first plane of JIS X 0213 in its second edition. -/
def late : Plane :=
  orElse (orElse (ofChart jis208) (ofChart jis213)) fun row cell => jis213Pairs.lookup (row, cell)

/-- The cells that only the second edition of JIS X 0213 uses. -/
def lateCells : List (Nat × Nat) :=
  [(14, 0), (15, 93), (47, 51), (47, 93), (84, 6), (94, 89), (94, 90), (94, 91), (94, 92), (94, 93)]

/-- The first plane of JIS X 0213 in its first edition: two bytes for a cell of the second edition count
together as bytes that do not fit. -/
def early : Plane :=
  fun row cell => if lateCells.contains (row, cell) then some [replacement] else late row cell

def lateSecond : Plane :=
  ofChart jis213Second

/-- The second plane of JIS X 0213 in its first edition, which differs in one cell. -/
def earlySecond : Plane :=
  fun row cell => if row == 93 && cell == 26 then some ['鬝'] else lateSecond row cell

/-! The extended form: the high half of the bytes holds the planes -/

/-- A half-width letter of the syllabary, by its byte. -/
def kana? (byte : Nat) : Option (List Char) :=
  if 0xA1 ≤ byte && byte ≤ 0xDF then some [Char.ofNat (0xFEC0 + byte)] else none

def square (plane : Plane) (first second : Nat) : Option (List Char) :=
  if 0xA1 ≤ first && 0xA1 ≤ second then plane (first - 0xA0) (second - 0xA1) else none

/-- A character of the first plane, a half-width letter after 0x8E, or a character of the second plane
after 0x8F. -/
def extendedPiece (plane second : Plane) : List Nat → Piece
  | 0x8E :: byte :: _ => Piece.ofOption 2 (kana? byte)
  | [0x8F, _] => .cut
  | 0x8F :: high :: low :: _ => Piece.ofOption 3 (square second high low)
  | bytes => Piece.pair (square plane) bytes

/-! The shifted form: two rows share a first byte -/

/-- The row and the cell of two bytes. -/
def shiftedPlace? (first second : Nat) : Option (Nat × Nat) :=
  let isFirst := (0x81 ≤ first && first ≤ 0x9F) || (0xE0 ≤ first && first ≤ 0xFC)
  if isFirst && 0x40 ≤ second && second != 0x7F && second ≤ 0xFC then
    let pair := if first < 0xE0 then first - 0x81 else first - 0xC1
    let cell := if second < 0x80 then second - 0x40 else second - 0x41
    some (2 * pair + cell / 94 + 1, cell % 94)
  else none

/-- A character of one byte, where that is one, or of a plane. -/
def shiftedPiece (single? : Nat → Option (List Char)) (plane : Plane) : List Nat → Piece
  | [] => .cut
  | first :: rest =>
    match single? first, rest with
    | some characters, _ => .glyphs characters 1
    | none, [] => .cut
    | none, second :: _ =>
      Piece.ofOption 2 ((shiftedPlace? first second).bind fun (row, cell) => plane row cell)

def asciiOrKana? (byte : Nat) : Option (List Char) :=
  if byte < 0x80 then some [Char.ofNat byte] else kana? byte

/-- The Roman letters of JIS X 0201, which differ from ASCII in two places. -/
def roman? (byte : Nat) : Option (List Char) :=
  if byte == 0x5C then some ['¥']
  else if byte == 0x7E then some ['‾']
  else if byte < 0x80 then some [Char.ofNat byte]
  else none

def romanOrKana? (byte : Nat) : Option (List Char) :=
  (roman? byte).or (kana? byte)

/-- In code page 932 all bytes are used. -/
def vendorSingle? (byte : Nat) : Option (List Char) :=
  match byte with
  | 0x80 => some ['\x80']
  | 0xA0 => some ['\uf8f0']
  | 0xFD => some ['\uf8f1']
  | 0xFE => some ['\uf8f2']
  | 0xFF => some ['\uf8f3']
  | byte => asciiOrKana? byte

/-- Code page 932: twenty rows hold characters for private use. -/
def vendor : Plane :=
  fun row cell =>
    if 95 ≤ row && row ≤ 114 then some [Char.ofNat (0xE000 + 94 * (row - 95) + cell)]
    else orElse (ofChart vendorJapanese) (ofChart jis208) row cell

/-- The rows of the second plane of JIS X 0213 that follow the first plane in the shifted form. -/
def secondRows : List Nat :=
  [1, 8, 3, 4, 5, 12, 13, 14, 15] ++ List.range' 78 17

/-- A plane with the tilde of ASCII. -/
def tilded (plane : Plane) : Plane :=
  fun row cell => if row == 2 && cell == 17 then some ['~'] else plane row cell

/-- Both planes of JIS X 0213 in the shifted form, where two characters are those of ASCII. -/
def bothPlanes (plane second : Plane) : Plane :=
  tilded fun row cell =>
    if row == 1 && cell == 31 then some ['\\']
    else if row ≤ 94 then plane row cell
    else (secondRows[row - 95]?).bind fun row => second row cell

end Japanese

open Japanese

/-- The Japanese sets by name. -/
def japaneseSets : List (String × (List UInt8 → Glyphs)) :=
  [("euc_jp", pieces (extendedPiece (ofChart jis208) (ofChart jis212))),
    ("euc_jis_2004", pieces (extendedPiece late (orElse lateSecond (ofChart jis212)))),
    ("euc_jisx0213", pieces (extendedPiece early (orElse earlySecond (ofChart jis212)))),
    ("shift_jis", pieces (shiftedPiece asciiOrKana? (ofChart jis208))),
    ("cp932", pieces (shiftedPiece vendorSingle? vendor)),
    ("shift_jis_2004", pieces (shiftedPiece romanOrKana? (bothPlanes late lateSecond))),
    ("shift_jisx0213", pieces (shiftedPiece romanOrKana? (bothPlanes early earlySecond)))]

end Orchestra.Text.Charset
