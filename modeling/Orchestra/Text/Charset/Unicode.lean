/-!
Encodings of all characters: in units of one, two or four bytes, and in letters and digits alone.

Bytes that do not fit an encoding give no character: in UTF-8 one for every longest start of a
sequence, elsewhere one for every unit.
-/

namespace Orchestra.Text

/-- The character that stands for bytes that do not fit. -/
def replacement : Char := '\ufffd'

/-- Characters read from bytes; none where the bytes do not fit. -/
abbrev Glyphs := List (Option Char)

/-- The text of what was read. -/
def Glyphs.replaced (glyphs : Glyphs) : List Char :=
  glyphs.map (·.getD replacement)

/-- The text of what was read, if all bytes fit. -/
def Glyphs.all? (glyphs : Glyphs) : Option (List Char) :=
  glyphs.mapM id

/-- A sequence of UTF-8 that has begun: how many bytes are missing, the range of the next one, and
the bits so far. -/
structure Utf8Pending where
  missing : Nat
  low : Nat
  high : Nat
  bits : Nat

/-- A byte at the start of a sequence: the character that it is, or the sequence that it begins. -/
def utf8Start (byte : Nat) : Glyphs × Option Utf8Pending :=
  if byte < 0x80 then ([some (Char.ofNat byte)], none)
  else if byte < 0xc2 then ([none], none)
  else if byte < 0xe0 then ([], some ⟨1, 0x80, 0xbf, byte - 0xc0⟩)
  else if byte == 0xe0 then ([], some ⟨2, 0xa0, 0xbf, 0⟩)
  else if byte == 0xed then ([], some ⟨2, 0x80, 0x9f, 0xd⟩)
  else if byte < 0xf0 then ([], some ⟨2, 0x80, 0xbf, byte - 0xe0⟩)
  else if byte == 0xf0 then ([], some ⟨3, 0x90, 0xbf, 0⟩)
  else if byte < 0xf4 then ([], some ⟨3, 0x80, 0xbf, byte - 0xf0⟩)
  else if byte == 0xf4 then ([], some ⟨3, 0x80, 0x8f, 4⟩)
  else ([none], none)

/-- A byte that continues a sequence. -/
def utf8Continue (pending : Utf8Pending) (byte : Nat) : Glyphs × Option Utf8Pending :=
  let bits := pending.bits * 64 + (byte - 0x80)
  if pending.missing ≤ 1 then ([some (Char.ofNat bits)], none)
  else ([], some ⟨pending.missing - 1, 0x80, 0xbf, bits⟩)

/-- The next byte of a text of which a sequence may have begun. -/
def utf8Step (pending : Option Utf8Pending) (byte : Nat) : Glyphs × Option Utf8Pending :=
  match pending with
  | none => utf8Start byte
  | some pending =>
    if pending.low ≤ byte && byte ≤ pending.high then utf8Continue pending byte
    else
      let (glyphs, pending) := utf8Start byte
      (none :: glyphs, pending)

def utf8From (pending : Option Utf8Pending) : List UInt8 → Glyphs
  | [] => if pending.isSome then [none] else []
  | byte :: rest =>
    let (glyphs, pending) := utf8Step pending byte.toNat
    glyphs ++ utf8From pending rest

/-- Text in UTF-8, with the replacement character for bytes that do not fit. -/
def utf8 (bytes : List UInt8) : List Char :=
  (utf8From none bytes).replaced

/-- Text in UTF-8 that a mark may stand in front of. -/
def utf8Marked : List UInt8 → Glyphs
  | 0xef :: 0xbb :: 0xbf :: rest => utf8From none rest
  | bytes => utf8From none bytes

def isHighSurrogate (unit : Nat) : Bool :=
  0xd800 ≤ unit && unit < 0xdc00

def isLowSurrogate (unit : Nat) : Bool :=
  0xdc00 ≤ unit && unit < 0xe000

/-- The character of two halves. -/
def joinedHalves (high low : Nat) : Char :=
  Char.ofNat (0x10000 + (high - 0xd800) * 1024 + (low - 0xdc00))

/-- Two bytes as one unit. -/
def unit16 (big : Bool) (a b : UInt8) : Nat :=
  if big then a.toNat * 256 + b.toNat else b.toNat * 256 + a.toNat

/-- Text in units of two bytes; `first` is a unit that waits for the second one of its pair. -/
def utf16From (big : Bool) (first : Option Nat) : List UInt8 → Glyphs
  | a :: b :: rest =>
    let unit := unit16 big a b
    match first with
    | some first =>
      if isLowSurrogate unit then some (joinedHalves first unit) :: utf16From big none rest
      else if isHighSurrogate unit then none :: utf16From big (some unit) rest
      else none :: some (Char.ofNat unit) :: utf16From big none rest
    | none =>
      if isHighSurrogate unit then utf16From big (some unit) rest
      else if isLowSurrogate unit then none :: utf16From big none rest
      else some (Char.ofNat unit) :: utf16From big none rest
  | rest => if first.isSome || !rest.isEmpty then [none] else []

/-- Text in units of two bytes; a pair of surrogates is one character. -/
def utf16 (big : Bool) (bytes : List UInt8) : Glyphs :=
  utf16From big none bytes

/-- Text in units of two bytes whose order a mark at the start tells. -/
def utf16Marked : List UInt8 → Glyphs
  | 0xff :: 0xfe :: rest => utf16 false rest
  | 0xfe :: 0xff :: rest => utf16 true rest
  | bytes => utf16 false bytes

/-- Four bytes as one unit. -/
def unit32 (big : Bool) (a b c d : UInt8) : Nat :=
  if big then ((a.toNat * 256 + b.toNat) * 256 + c.toNat) * 256 + d.toNat
  else ((d.toNat * 256 + c.toNat) * 256 + b.toNat) * 256 + a.toNat

/-- The character of a code point, if it is one. -/
def glyph (code : Nat) : Option Char :=
  if code.isValidChar then some (Char.ofNat code) else none

/-- Text in units of four bytes. -/
def utf32 (big : Bool) : List UInt8 → Glyphs
  | a :: b :: c :: d :: rest => glyph (unit32 big a b c d) :: utf32 big rest
  | [] => []
  | _ => [none]

/-- Text in units of four bytes whose order a mark at the start tells. -/
def utf32Marked : List UInt8 → Glyphs
  | 0xff :: 0xfe :: 0 :: 0 :: rest => utf32 false rest
  | 0 :: 0 :: 0xfe :: 0xff :: rest => utf32 true rest
  | bytes => utf32 false bytes

/-- The six bits of a letter in a run of encoded units. -/
def runBits? (byte : Nat) : Option Nat :=
  let c := Char.ofNat byte
  if c.isUpper then some (byte - 65)
  else if c.isLower then some (byte - 71)
  else if c.isDigit then some (byte + 4)
  else if c == '+' then some 62
  else if c == '/' then some 63
  else none

/-- A run of encoded units: the bits that are not used yet and their number, and a unit that waits
for the second one of its pair. -/
structure Run where
  bits : Nat := 0
  width : Nat := 0
  first : Option Nat := none

/-- Bits of a run that do not make a unit are few, and zeros. -/
def Run.isClean (run : Run) : Bool :=
  run.width < 6 && run.bits == 0

/-- A further letter of a run. -/
def Run.push (run : Run) (six : Nat) : Glyphs × Run :=
  let bits := run.bits * 64 + six
  let width := run.width + 6
  if width < 16 then ([], { run with bits, width })
  else
    let size := Nat.pow 2 (width - 16)
    let unit := bits / size
    let rest : Run := { bits := bits % size, width := width - 16 }
    match run.first with
    | some first =>
      if isLowSurrogate unit then ([some (joinedHalves first unit)], rest)
      else if isHighSurrogate unit then ([none], { rest with first := some unit })
      else ([none, some (Char.ofNat unit)], rest)
    | none =>
      if isHighSurrogate unit then ([], { rest with first := some unit })
      else if isLowSurrogate unit then ([none], rest)
      else ([some (Char.ofNat unit)], rest)

/-- Text in ASCII with runs of encoded units between a plus sign and the end of their letters; `fuel`
bounds the steps. -/
def utf7From : (fuel : Nat) → Option Run → List UInt8 → Glyphs
  | 0, _, _ => []
  | _ + 1, none, [] => []
  | _ + 1, some run, [] => if run.isClean && run.first.isNone then [] else [none]
  | fuel + 1, some run, byte :: rest =>
    match runBits? byte.toNat with
    | some six =>
      let (glyphs, run) := run.push six
      glyphs ++ utf7From fuel (some run) rest
    | none =>
      if !run.isClean then none :: utf7From fuel none rest
      else
        (if run.first.isSome && byte < 128 then [none] else [])
          ++ utf7From fuel none (if byte == 0x2d then rest else byte :: rest)
  | fuel + 1, none, byte :: rest =>
    if byte == 0x2b then
      match rest with
      | 0x2d :: rest => some '+' :: utf7From fuel none rest
      | next :: rest =>
        if (runBits? next.toNat).isSome then utf7From fuel (some {}) (next :: rest)
        else none :: utf7From fuel none rest
      | [] => utf7From fuel (some {}) []
    else if byte < 128 then some (Char.ofNat byte.toNat) :: utf7From fuel none rest
    else none :: utf7From fuel none rest

/-- Text in ASCII with runs of encoded units. -/
def utf7 (bytes : List UInt8) : Glyphs :=
  utf7From (2 * bytes.length + 2) none bytes

/-- Text of one character a byte, where the upper half is not used. -/
def ascii (bytes : List UInt8) : Glyphs :=
  bytes.map fun byte => if byte < 128 then some (Char.ofNat byte.toNat) else none

/-- Text of one character a byte, all of them the first of all characters. -/
def latin1 (bytes : List UInt8) : Glyphs :=
  bytes.map fun byte => some (Char.ofNat byte.toNat)

end Orchestra.Text
