import Orchestra.Text.Charset.KoreanChart

/-!
Korean sets: the standard, its extension by all other syllables, and the set that composes syllables of
the bits of two bytes.
-/

namespace Orchestra.Text.Charset

namespace Korean

/-- The consonants that begin a syllable. -/
def initials : List Char :=
  "ㄱㄲㄴㄷㄸㄹㅁㅂㅃㅅㅆㅇㅈㅉㅊㅋㅌㅍㅎ".toList

/-- The consonants that end a syllable. -/
def finals : List Char :=
  "ㄱㄲㄳㄴㄵㄶㄷㄹㄺㄻㄼㄽㄾㄿㅀㅁㅂㅄㅅㅆㅇㅈㅊㅋㅌㅍㅎ".toList

/-- The number of the first syllable, and the one after the last. -/
def firstSyllable : Nat := 0xAC00

def endOfSyllables : Nat := 0xD7A4

/-- The syllable of an initial, a vowel and a final by their numbers; the final zero is none. -/
def syllable (initial vowel final : Nat) : Char :=
  Char.ofNat (firstSyllable + (initial * 21 + vowel) * 28 + final)

/-! The standard -/

/-- A consonant by its byte in the row of letters. -/
def consonant (byte : Nat) : Char :=
  Char.ofNat (0x3131 + (byte - 0xA1))

/-- A final consonant by its byte; the filler is none. -/
def final? (byte : Nat) : Option Nat :=
  if byte == 0xD4 then some 0 else (finals.idxOf? (consonant byte)).map (· + 1)

/-- A syllable by the bytes of its three letters. -/
def composed? (initial vowel final : Nat) : Option Char := do
  if initial < 0xA1 || vowel < 0xBF || 0xD3 < vowel || final < 0xA1 then none
  return syllable (← initials.idxOf? (consonant initial)) (vowel - 0xBF) (← final? final)

/-- A character of two bytes; a letter that is only a filler begins a syllable of three letters. -/
def standardPiece : List Nat → Piece
  | 0xA4 :: 0xD4 :: rest =>
    match rest with
    | 0xA4 :: initial :: 0xA4 :: vowel :: 0xA4 :: final :: _ =>
      Piece.ofOption 8 ((composed? initial vowel final).map ([·]))
    | _ => if rest.length < 6 then .cut else .wrong 1
  | bytes => Piece.pair (fun first second => (ksx1001.square? first second).map ([·])) bytes

/-! The extension -/

/-- The place of two bytes among the syllables that the standard lacks. -/
def laterPlace? (first second : Nat) : Option Nat :=
  let cell? : Option Nat :=
    if 0x41 ≤ second && second ≤ 0x5A then some (second - 0x41)
    else if 0x61 ≤ second && second ≤ 0x7A then some (second - 0x47)
    else if 0x81 ≤ second && second ≤ 0xFE then some (second - 0x4D)
    else none
  cell?.bind fun cell =>
    if 0x81 ≤ first && first ≤ 0xA0 then some ((first - 0x81) * 178 + cell)
    else if 0xA1 ≤ first && first ≤ 0xC6 && cell < 84 then some (32 * 178 + (first - 0xA1) * 84 + cell)
    else none

/-- The syllables of the standard, in their order. -/
def standardSyllables : List Nat :=
  (ksx1001.rows.flatMap fun (_, parts) => parts.flatMap String.toList).filterMap fun c =>
    if firstSyllable ≤ c.toNat && c.toNat < endOfSyllables then some c.toNat else none

/-- The syllable at a place among those that others, in their order, leave out; `next` is the first
syllable that is left to look at. -/
def among (next place : Nat) : List Nat → Nat
  | [] => next + place
  | other :: rest =>
    if other < next + place + 1 then
      if next ≤ other && place < other - next then next + place
      else among (other + 1) (place - (other - next)) rest
    else next + place

/-- A syllable that the standard lacks. -/
def later? (first second : Nat) : Option Char :=
  (laterPlace? first second).bind fun place =>
    let code := among firstSyllable place standardSyllables
    if code < endOfSyllables then some (Char.ofNat code) else none

def extended (first second : Nat) : Option (List Char) :=
  ((ksx1001.square? first second).or (later? first second)).map ([·])

/-! Composition by bits -/

/-- One of the letters that bits stand for. -/
inductive Jamo where
  | filler
  | letter (number : Nat)

def initialOf? (bits : Nat) : Option Jamo :=
  if bits == 1 then some .filler
  else if 2 ≤ bits && bits ≤ 20 then some (.letter (bits - 2))
  else none

/-- The bits of the vowels, in their order. -/
def vowelBits : List Nat :=
  [3, 4, 5, 6, 7, 10, 11, 12, 13, 14, 15, 18, 19, 20, 21, 22, 23, 26, 27, 28, 29]

def vowelOf? (bits : Nat) : Option Jamo :=
  if bits == 2 then some .filler else (vowelBits.idxOf? bits).map .letter

def finalOf? (bits : Nat) : Option Jamo :=
  if bits == 1 then some .filler
  else if 2 ≤ bits && bits ≤ 17 then some (.letter (bits - 2))
  else if 19 ≤ bits && bits ≤ 29 then some (.letter (bits - 3))
  else none

/-- What three letters make: a syllable, or a letter that stands alone. -/
def compose : Jamo → Jamo → Jamo → Option Char
  | .filler, .filler, .filler => some '\u3000'
  | .filler, .filler, .letter final => finals[final]?
  | .filler, .letter vowel, .filler => some (Char.ofNat (0x314F + vowel))
  | .letter initial, .filler, .filler => initials[initial]?
  | .letter initial, .letter vowel, .filler => some (syllable initial vowel 0)
  | .letter initial, .letter vowel, .letter final => some (syllable initial vowel (final + 1))
  | _, _, _ => none

/-- A sign of the standard in the upper part of the set. -/
def sign? (first second : Nat) : Option Char :=
  if first < 0xD9 || first == 0xDF || 0xF9 < first || second < 0x31 || (0x7F ≤ second && second < 0x91)
      || second == 0xFF || (first == 0xDA && 0xA1 ≤ second && second ≤ 0xD3) then none
  else
    let row := if first < 0xE0 then 2 * (first - 0xD9) else 2 * first - 0x197
    let cell := if second < 0x91 then second - 0x31 else second - 0x43
    ksx1001.char? (row + cell / 94 + 1) (cell % 94)

/-- A character by the bits of two bytes. -/
def byBits (first second : Nat) : Option (List Char) :=
  let found :=
    if first < 0xD8 then do
      compose (← initialOf? (first / 4 % 32)) (← vowelOf? (first % 4 * 8 + second / 32))
        (← finalOf? (second % 32))
    else sign? first second
  found.map ([·])

end Korean

open Korean

/-- The Korean sets by name, those with shifts aside. -/
def koreanSets : List (String × (List UInt8 → Glyphs)) :=
  [("euc_kr", pieces standardPiece), ("cp949", pieces (Piece.pair extended)),
    ("johab", pieces (Piece.pair byBits))]

end Orchestra.Text.Charset
