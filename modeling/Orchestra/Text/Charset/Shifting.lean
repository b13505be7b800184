import Orchestra.Text.Charset.Chinese
import Orchestra.Text.Charset.Japanese
import Orchestra.Text.Charset.Korean
import Orchestra.Text.Charset.Octet

/-!
Sets that shift between planes by sequences of bytes: those whose sequences begin with the escape, and
the one whose sequences begin with a tilde.
-/

namespace Orchestra.Text.Charset

/-! Shifts by a tilde -/

namespace Tilde

/-- A character where `wide` tells whether two bytes make one. -/
def piece (wide : Bool) : List Nat → Piece × Bool
  | [] => (.cut, wide)
  | first :: rest =>
    if 0x80 ≤ first then (.wrong 1, wide)
    else if first == 0x7E then
      match rest, wide with
      | [], _ => (.cut, wide)
      | 0x7E :: _, false => (.glyphs ['~'] 2, false)
      | 0x7B :: _, false => (.glyphs [] 2, true)
      | 0x0A :: _, false => (.glyphs [] 2, false)
      | 0x7D :: _, true => (.glyphs [] 2, false)
      | _, _ => (.wrong 1, wide)
    else if wide then
      match rest with
      | [] => (.cut, wide)
      | second :: _ =>
        (Piece.ofOption 2 (Chinese.standard (first + 0x80) (second + 0x80)), wide)
    else (Piece.single first, wide)

end Tilde

/-! Shifts by the escape -/

/-- A set that may be shifted to: the byte that names it, whether two bytes make a character, and the
characters. -/
structure Designated where
  mark : Nat
  wide : Bool
  chars? : Nat → Nat → Option (List Char)

namespace Designated

/-- A set by a chart of rows from 0x21. -/
def ofPlane (mark : Nat) (plane : Japanese.Plane) : Designated :=
  ⟨mark, true, fun first second =>
    if 0x21 ≤ first && 0x21 ≤ second then plane (first - 0x20) (second - 0x21) else none⟩

/-- A set by what follows when both bytes are in the upper half. -/
def ofSquare (mark : Nat) (chars? : Nat → Nat → Option (List Char)) : Designated :=
  ⟨mark, true, fun first second => chars? (first + 0x80) (second + 0x80)⟩

def jis : List Designated :=
  [ofPlane 0x42 (Japanese.ofChart jis208)]

def oldJis : Designated :=
  ofPlane 0x40 (Japanese.ofChart jis208)

def supplement : Designated :=
  ofPlane 0x44 (Japanese.ofChart jis212)

def roman : Designated :=
  ⟨0x4A, false, fun byte _ => Japanese.roman? byte⟩

def kana : Designated :=
  ⟨0x49, false, fun byte _ => if byte < 0x80 then Japanese.kana? (byte + 0x80) else none⟩

def korean : Designated :=
  ofSquare 0x43 fun first second => (ksx1001.square? first second).map ([·])

def chinese : Designated :=
  ofSquare 0x41 Chinese.standard

end Designated

/-- What a family of shifts allows. -/
structure ShiftRules where
  sets : List Designated
  /-- There are two control characters that shift between the first set and the second. -/
  locking : Bool := false
  /-- A third set is shifted to for one character. -/
  third : Bool := false
  /-- A longer form of the sequence for the plane of JIS X 0208 is known. -/
  renewed : Bool := true

/-- The sets in use, by mark and by whether their characters are wide; none is ASCII. -/
structure Shifts where
  first : Option (Nat × Bool) := none
  second : Option (Nat × Bool) := none
  /-- The third set, by its mark. -/
  third : Option Nat := none
  shifted : Bool := false
  /-- A sequence of another kind is passed over as it is. -/
  passing : Bool := false

namespace Shifts

def isFinal (byte : Nat) : Bool :=
  0x40 ≤ byte && byte ≤ 0x5A

/-- The length of a sequence after the escape, with its final byte; none if the bytes end before. -/
def sequence? (rules : ShiftRules) : (fuel : Nat) → (length : Nat) → List Nat → Option Nat
  | 0, _, _ => some 0
  | _, _, [] => none
  | fuel + 1, length, byte :: rest =>
    if isFinal byte then some (length + 1)
    else
      match rules.renewed && byte == 0x26, rest with
      | true, 0x40 :: tail =>
        match fuel with
        | fuel + 2 => sequence? rules fuel (length + 3) (tail.drop 1)
        | _ => some 0
      | _, _ => sequence? rules fuel (length + 1) rest

/-- The set that a sequence names and the place that it is named for; none if the sequence is none of
these. -/
def named? (rules : ShiftRules) : List Nat → Option (Nat × Option (Nat × Bool))
  | [0x24, mark] => some (0, some (mark, true))
  | [0x28, mark] => some (0, if mark == 0x42 then none else some (mark, false))
  | [0x29, mark] => some (1, if mark == 0x42 then none else some (mark, false))
  | [0x2E, mark] =>
    if rules.third then some (2, if mark == 0x42 then none else some (mark, false)) else none
  | [0x24, 0x28, mark] => some (0, some (mark, true))
  | [0x24, 0x29, mark] => some (1, some (mark, true))
  | [_, _, 0x1B, 0x24, 0x42] => if rules.renewed then some (0, some (0x42, true)) else none
  | _ => none

/-- The sets of one byte for the third place. -/
def thirdMarks : List Nat := [0x41, 0x46]

/-- The rules know a set. -/
def isKnown (rules : ShiftRules) (mark : Nat) (wide : Bool) : Bool :=
  rules.sets.any (fun set => set.mark == mark && set.wide == wide)
    || (rules.third && !wide && thirdMarks.contains mark)

/-- A set takes its place. -/
def designate (shifts : Shifts) (place : Nat) (set : Option (Nat × Bool)) : Shifts :=
  match place with
  | 0 => { shifts with first := set }
  | 1 => { shifts with second := set }
  | _ => { shifts with third := set.map Prod.fst }

/-- What a sequence after the escape comes to. -/
def escape (rules : ShiftRules) (shifts : Shifts) (bytes : List Nat) : Piece × Shifts :=
  match sequence? rules 15 0 bytes with
  | none => (.cut, shifts)
  | some 0 => (.wrong 1, shifts)
  | some length =>
    match named? rules (bytes.take length) with
    | none => (.wrong (length + 1), shifts)
    | some (place, none) => (.glyphs [] (length + 1), designate shifts place none)
    | some (place, some (mark, wide)) =>
      if isKnown rules mark wide then
        (.glyphs [] (length + 1), designate shifts place (some (mark, wide)))
      else (.wrong (length + 1), shifts)

/-- The bytes of three signs that the Greek set did not always have. -/
def newGreek : List Nat := [0x24, 0x25, 0x2A]

/-- A character of the third set. -/
def ofThird (shifts : Shifts) (byte : Nat) : Option (List Char) :=
  match shifts.third with
  | some 0x41 => if byte < 0x80 then some [Char.ofNat (byte + 0x80)] else none
  | some _ =>
    let greek? := octetSets.find? fun set => set.name == "iso8859_7"
    match (greek?.map fun set => set.decode [UInt8.ofNat (byte.xor 0x80)]).getD [] with
    | [some c] => if newGreek.contains byte then none else some [c]
    | _ => none
  | none => if byte < 0x80 then some [Char.ofNat byte] else none

/-- A character of a set. -/
def character (rules : ShiftRules) (set : Nat × Bool) (bytes : List Nat) : Piece :=
  match rules.sets.find? fun known => known.mark == set.1 && known.wide == set.2 with
  | none => .wrong 1
  | some known =>
    match known.wide, bytes with
    | false, byte :: _ =>
      match known.chars? byte 0 with
      | some characters => .glyphs characters 1
      | none => .wrong 1
    | true, first :: second :: _ =>
      match known.chars? first second with
      | some characters => .glyphs characters 2
      | none => .wrong 2
    | _, _ => .cut

/-- What stands at the start of some bytes. -/
def piece (rules : ShiftRules) (shifts : Shifts) : List Nat → Piece × Shifts
  | [] => (.cut, shifts)
  | byte :: rest =>
    if shifts.passing then (Piece.single byte, { shifts with passing := !isFinal byte })
    else if byte == 0x1B then
      match rest with
      | [] => (.cut, shifts)
      | next :: tail =>
        if [0x28, 0x29, 0x24, 0x2E, 0x26].contains next then escape rules shifts rest
        else if rules.third && next == 0x4E then
          match tail with
          | [] => (.cut, shifts)
          | byte :: _ =>
            match ofThird shifts byte with
            | some characters => (.glyphs characters 3, shifts)
            | none => (.wrong 3, shifts)
        else (Piece.single byte, { shifts with passing := true })
    else if rules.locking && byte == 0x0F then (.glyphs [] 1, { shifts with shifted := false })
    else if rules.locking && byte == 0x0E then (.glyphs [] 1, { shifts with shifted := true })
    else if byte == 0x0A then (Piece.single byte, { shifts with shifted := false })
    else if byte < 0x20 then (Piece.single byte, shifts)
    else if 0x80 ≤ byte then (.wrong 1, shifts)
    else
      match if shifts.shifted then shifts.second else shifts.first with
      | none => (Piece.single byte, shifts)
      | some set => (character rules set (byte :: rest), shifts)

end Shifts

/-- The bytes of a family of shifts as text. -/
def byShifts (rules : ShiftRules) : List UInt8 → Glyphs :=
  shifting (Shifts.piece rules) {}

open Designated Japanese in
/-- The sets with shifts by name. -/
def shiftingSets : List (String × (List UInt8 → Glyphs)) :=
  [("hz", shifting Tilde.piece false),
    ("iso2022_kr", byShifts { sets := [korean], locking := true, renewed := false }),
    ("iso2022_jp", byShifts { sets := jis ++ [oldJis, roman] }),
    ("iso2022_jp_1", byShifts { sets := jis ++ [oldJis, roman, supplement] }),
    ("iso2022_jp_2", byShifts
      { sets := jis ++ [oldJis, roman, supplement, korean, chinese], third := true }),
    ("iso2022_jp_3", byShifts
      { sets := jis ++ [ofPlane 0x4F (tilded early), ofPlane 0x50 lateSecond] }),
    ("iso2022_jp_2004", byShifts
      { sets := jis ++ [ofPlane 0x51 (tilded late), ofPlane 0x50 lateSecond] }),
    ("iso2022_jp_ext", byShifts { sets := jis ++ [oldJis, roman, kana, supplement] })]

end Orchestra.Text.Charset
