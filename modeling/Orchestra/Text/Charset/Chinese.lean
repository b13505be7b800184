import Orchestra.Text.Charset.BigFiveChart
import Orchestra.Text.Charset.ChineseChart

/-!
Chinese sets: the national standard with its extensions, and the Big Five with those of a vendor and of
Hong Kong.
-/

namespace Orchestra.Text.Charset

namespace Chinese

/-- The cell of a second byte in the national standard. -/
def cell? (second : Nat) : Option Nat :=
  if 0x40 ≤ second && second ≤ 0x7E then some (second - 0x40)
  else if 0x80 ≤ second then some (second - 0x41)
  else none

def ofBytes? (chart : Chart) (first second : Nat) : Option Char :=
  (cell? second).bind (chart.char? first)

/-- The standard with its extension. -/
def extended (first second : Nat) : Option (List Char) :=
  (ofBytes? guobiao first second).map ([·])

/-- The bytes in the square of the standard that only the extension uses. -/
def isLater (first second : Nat) : Bool :=
  (first == 0xA2 && second ≤ 0xAA) || (first == 0xA6 && 0xE0 ≤ second && second ≤ 0xF5)
    || (first == 0xA8 && 0xBB ≤ second && second ≤ 0xC0)

/-- The standard alone, which has two marks of its own. -/
def standard (first second : Nat) : Option (List Char) :=
  if first < 0xA1 || second < 0xA1 || isLater first second then none
  else if first == 0xA1 && second == 0xA4 then some ['・']
  else if first == 0xA1 && second == 0xAA then some ['―']
  else extended first second

/-- A character for private use. -/
def private? (first second : Nat) : Option Char :=
  if 0xA1 ≤ second && second ≤ 0xFE && 0xAA ≤ first && first ≤ 0xAF then
    some (Char.ofNat (0xE000 + 94 * (first - 0xAA) + (second - 0xA1)))
  else if 0xA1 ≤ second && second ≤ 0xFE && 0xF8 ≤ first && first ≤ 0xFE then
    some (Char.ofNat (0xE234 + 94 * (first - 0xF8) + (second - 0xA1)))
  else if second < 0xA1 && 0xA1 ≤ first && first ≤ 0xA7 then
    (cell? second).map fun cell => Char.ofNat (0xE4C6 + 96 * (first - 0xA1) + cell)
  else none

/-- The two-byte forms of the third edition. -/
def latest (first second : Nat) : Option (List Char) :=
  (extended first second).or
    (((private? first second).or (ofBytes? guobiaoLate first second)).map ([·]))

/-- The last run of characters that starts at a place or before it. -/
def runAt? (place : Nat) : Option (Nat × Nat) :=
  (fourByteRuns.takeWhile (·.1 ≤ place)).getLast?

/-- A four-byte form; each byte is a digit, the second and the fourth one of ten, the others of 126. -/
def fourBytes? (a b c d : Nat) : Option (List Char) :=
  if a < 0x81 || 0xFE < a || c < 0x81 || 0xFE < c || d < 0x30 || 0x39 < d then none
  else
    let lead := a - 0x81
    let rest := (c - 0x81) * 10 + (d - 0x30)
    if lead < 4 then
      let place := (lead * 10 + (b - 0x30)) * 1260 + rest
      if 39420 ≤ place then none
      else (runAt? place).map fun (start, first) => [Char.ofNat (first + (place - start))]
    else if 15 ≤ lead then
      let code := 0x10000 + ((lead - 15) * 10 + (b - 0x30)) * 1260 + rest
      if code ≤ 0x10FFFF then some [Char.ofNat code] else none
    else none

/-- A character of one, two or four bytes. -/
def latestPiece : List Nat → Piece
  | first :: second :: rest =>
    if 0x80 ≤ first && 0x30 ≤ second && second ≤ 0x39 then
      match rest with
      | third :: fourth :: _ => Piece.ofOption 4 (fourBytes? first second third fourth)
      | _ => .cut
    else Piece.pair latest (first :: second :: rest)
  | bytes => Piece.pair latest bytes

/-! The Big Five -/

/-- The cell of a second byte in the Big Five. -/
def bigFiveCell? (second : Nat) : Option Nat :=
  if 0x40 ≤ second && second ≤ 0x7E then some (second - 0x40)
  else if 0xA1 ≤ second then some (second - 0x62)
  else none

/-- The first of some charts that has a character for two bytes. -/
def fromCharts (charts : List Chart) (first second : Nat) : Option (List Char) :=
  (bigFiveCell? second).bind fun cell =>
    (charts.findSome? (·.char? first cell)).map ([·])

/-- The part of the Big Five that Hong Kong does not share. -/
def isOwn (first second : Nat) : Bool :=
  (first == 0xC6 && 0xA1 ≤ second) || first == 0xC7 || first == 0xC8

def ofHongKong (first second : Nat) : Option (List Char) :=
  let charts := if isOwn first second then [hongKong] else [bigFive, hongKong]
  (fromCharts charts first second).or
    ((bigFiveCell? second).bind fun cell => hongKongPairs.lookup (first, cell))

end Chinese

open Chinese

/-- The Chinese sets by name, those with shifts aside. -/
def chineseSets : List (String × (List UInt8 → Glyphs)) :=
  [("gb2312", pieces (Piece.pair standard)), ("gbk", pieces (Piece.pair extended)),
    ("gb18030", pieces latestPiece), ("big5", pieces (Piece.pair (fromCharts [bigFive]))),
    ("cp950", pieces (Piece.pair (fromCharts [vendorBigFive, bigFive]))),
    ("big5hkscs", pieces (Piece.pair ofHongKong))]

end Orchestra.Text.Charset
