import Orchestra.Text.Blank

/-!
Decimal digits of all scripts, and integers written in text: an optional sign and digits, with single
underscores allowed between two digits.
-/

namespace Orchestra.Text

/-- The zero of every script that has decimal digits; the nine others follow it. -/
def digitZeros : List Nat := [
  0x30, 0x660, 0x6F0, 0x7C0, 0x966, 0x9E6, 0xA66, 0xAE6, 0xB66, 0xBE6, 0xC66, 0xCE6, 0xD66,
  0xDE6, 0xE50, 0xED0, 0xF20, 0x1040, 0x1090, 0x17E0, 0x1810, 0x1946, 0x19D0, 0x1A80, 0x1A90,
  0x1B50, 0x1BB0, 0x1C40, 0x1C50, 0xA620, 0xA8D0, 0xA900, 0xA9D0, 0xA9F0, 0xAA50, 0xABF0,
  0xFF10, 0x104A0, 0x10D30, 0x11066, 0x110F0, 0x11136, 0x111D0, 0x112F0, 0x11450, 0x114D0,
  0x11650, 0x116C0, 0x11730, 0x118E0, 0x11950, 0x11C50, 0x11D50, 0x11DA0, 0x16A60, 0x16AC0,
  0x16B50, 0x1D7CE, 0x1D7D8, 0x1D7E2, 0x1D7EC, 0x1D7F6, 0x1E140, 0x1E2F0, 0x1E950, 0x1FBF0
]

/-- The value of a decimal digit of any script. -/
def digitValue? (c : Char) : Option Nat :=
  (digitZeros.find? fun start => start ≤ c.toNat && c.toNat < start + 10).map (c.toNat - ·)

def isDigit (c : Char) : Bool :=
  (digitValue? c).isSome

theorem isDigit_bounds {c : Char} (digit : c.isDigit) : 48 ≤ c.toNat ∧ c.toNat ≤ 57 := by
  simpa [Char.isDigit, Char.le_def, UInt32.le_iff_toNat_le] using digit

/-- White space that may surround an integer: all white space but the four file separators. -/
def isIntegerBlank (c : Char) : Bool :=
  isBlank c && !(28 ≤ c.toNat && c.toNat ≤ 31)

/-- Digits after a first one whose value so far is `value`. -/
def readDigits (value : Nat) : List Char → Option Nat
  | [] => some value
  | '_' :: c :: rest => (digitValue? c).bind fun digit => readDigits (10 * value + digit) rest
  | c :: rest => (digitValue? c).bind fun digit => readDigits (10 * value + digit) rest

/-- A natural number without a sign; there is at least one digit. -/
def readNatural : List Char → Option Nat
  | [] => none
  | c :: rest => (digitValue? c).bind fun digit => readDigits digit rest

/-- A number with an optional sign. -/
def readSigned : List Char → Option Int
  | '-' :: rest => (readNatural rest).map fun value => -(value : Int)
  | '+' :: rest => (readNatural rest).map Int.ofNat
  | cs => (readNatural cs).map Int.ofNat

/-- The integer that a text holds, white space around it aside. -/
def readInteger (cs : List Char) : Option Int :=
  readSigned (((cs.dropWhile isIntegerBlank).reverse.dropWhile isIntegerBlank).reverse)

/-- The greatest number of digits of an integer that is read from text or written as text. -/
def maxDigits : Nat := 4300

/-- Why a text is not taken as an integer. -/
inductive IntegerFault where
  | malformed
  /-- More digits than are read, and how many there are. -/
  | tooLong (digits : Nat)
deriving DecidableEq, Repr

/-- How many digits stand at the start of a text, in groups between single underscores; none when the
underscores do not stand between digits. -/
def digitCount? (afterDigit : Bool) : List Char → Option Nat
  | [] => if afterDigit then some 0 else none
  | c :: rest =>
    if isDigit c then (digitCount? true rest).map (· + 1)
    else if c == '_' then if afterDigit then digitCount? false rest else none
    else if afterDigit then some 0 else none

/-- The text of an integer without white space around it and without its sign. -/
def unsignedText (cs : List Char) : List Char :=
  match ((cs.dropWhile isIntegerBlank).reverse.dropWhile isIntegerBlank).reverse with
  | '-' :: rest | '+' :: rest => rest
  | cs => cs

/-- The integer that a text of bounded length holds. -/
def readBounded (cs : List Char) : Except IntegerFault Int :=
  match digitCount? false (unsignedText cs) with
  | none => .error .malformed
  | some count =>
    if maxDigits < count then .error (.tooLong count)
    else
      match readInteger cs with
      | some value => .ok value
      | none => .error .malformed

/-- The integer at the start of a text, after white space; the rest of the text is not looked at. -/
def leadingInteger (cs : List Char) : Except IntegerFault Int :=
  let body := cs.dropWhile isBlank
  let (sign, rest) :=
    match body with
    | '-' :: rest => (['-'], rest)
    | '+' :: rest => ([], rest)
    | rest => ([], rest)
  readBounded (sign ++ rest.takeWhile isDigit)

/-- The decimal digits of a natural number. -/
def naturalText (n : Nat) : List Char :=
  Nat.toDigits 10 n

/-- The decimal notation of an integer. -/
def integerText (n : Int) : List Char :=
  if n < 0 then '-' :: naturalText n.natAbs else naturalText n.natAbs

/-- A number in a given base with at least `width` digits, zeros in front. -/
def padded (base width n : Nat) : List Char :=
  let digits := Nat.toDigits base n
  List.replicate (width - digits.length) '0' ++ digits

end Orchestra.Text
