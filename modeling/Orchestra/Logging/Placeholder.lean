import Orchestra.Decimal.Significant
import Orchestra.Failure

/-!
Placeholders of messages: how a value is laid out as text.

A placeholder is a percent sign, an optional name in brackets, flags, a width, a precision and a
letter for the kind of text: `s`, `r` and `a` for any value, `d`, `i`, `u`, `x`, `X` and `o` for
whole numbers, `e`, `f` and `g` for doubles, `c` for characters.
-/

namespace Orchestra.Logging

/-- How a placeholder lays out its text. -/
structure Placement where
  /-- Blanks are put after the text, not in front of it. -/
  left : Bool := false
  zeros : Bool := false
  /-- A number that is not negative gets a plus. -/
  plus : Bool := false
  /-- A number that is not negative gets a blank. -/
  blank : Bool := false
  /-- A number shows its base, or its point. -/
  full : Bool := false
  width : Nat := 0
  precision : Option Nat := none

namespace Placement

/-- A text filled up with blanks to the width. -/
def fill (placement : Placement) (text : List Char) : List Char :=
  let blanks := List.replicate (placement.width - text.length) ' '
  if placement.left then text ++ blanks else blanks ++ text

/-- A number of the given sign filled up to the width; zeros go between `base` and the digits. -/
def number (placement : Placement) (negative : Bool) (base digits : List Char) : List Char :=
  let sign :=
    if negative then ['-'] else if placement.plus then ['+'] else if placement.blank then [' ']
    else []
  let missing := placement.width - (sign.length + base.length + digits.length)
  if placement.zeros && !placement.left then
    sign ++ base ++ List.replicate missing '0' ++ digits
  else placement.fill (sign ++ base ++ digits)

/-- A number that may start with a minus. -/
def signed (placement : Placement) (text : List Char) : List Char :=
  match text with
  | '-' :: digits => placement.number true [] digits
  | digits => placement.number false [] digits

theorem width_le_fill (placement : Placement) (text : List Char) :
    placement.width ≤ (placement.fill text).length := by
  unfold fill
  split <;> simp only [List.length_append, List.length_replicate] <;> omega

/-- A text cut to the precision. -/
def cut (placement : Placement) (text : List Char) : List Char :=
  placement.fill ((placement.precision.map fun n => text.take n).getD text)

/-- An integer with at least as many digits as the precision says. -/
def whole (placement : Placement) (base : List Char) (radix : Nat) (n : Int) : List Char :=
  placement.number (n < 0) (if placement.full then base else [])
    (Text.padded radix (placement.precision.getD 0) n.natAbs)

end Placement

def typeFailure (message : String) : Failure :=
  .foreign .type message

/-- The letter asks for an integer in a base other than ten. -/
def isBased (letter : Char) : Bool :=
  letter == 'x' || letter == 'X' || letter == 'o'

/-- The whole number that a value is, for the letter of a placeholder. -/
def wholeOf (letter : Char) (value : Value) : Except Failure Int :=
  let refused : Failure :=
    let wanted := if isBased letter then "an integer" else "a real number"
    typeFailure ("%" ++ String.singleton letter ++ " format: " ++ wanted
      ++ " is required, not " ++ value.kindName)
  match value with
  | .bool b => .ok (if b then 1 else 0)
  | .int n => .ok n
  | .float x =>
    if isBased letter then .error refused
    else
      match Decimal.Binary.ofFloat x with
      | .nan => .error (.value "cannot convert float NaN to integer")
      | .infinite _ => .error (.foreign .overflow "cannot convert float infinity to integer")
      | binary => .ok (binary.truncate?.getD 0)
  | _ => .error refused

/-- The double that a value is. -/
def doubleOf (value : Value) : Except Failure Float :=
  match value.number?.map Number.toFloat with
  | some (.ok x) => .ok x
  | some (.error error) => .error (.outOfRange error)
  | none => .error (typeFailure ("must be real number, not " ++ value.kindName))

/-- The character that a value is, or the number of one. -/
def characterOf (value : Value) : Except Failure Char :=
  let refused : Failure := typeFailure "%c requires int or char"
  let numbered (n : Int) : Except Failure Char :=
    if 0 ≤ n && n < 0x110000 then .ok (Char.ofNat n.toNat)
    else .error (.foreign .overflow "%c arg not in range(0x110000)")
  match value with
  | .bool b => numbered (if b then 1 else 0)
  | .int n => numbered n
  | .str s =>
    match s.toList with
    | [c] => .ok c
    | _ => .error refused
  | _ => .error refused

/-- A text in which characters beyond the plain ones are written as escapes. -/
def plainText (cs : List Char) : List Char :=
  cs.flatMap fun c =>
    if c.toNat < 0x80 then [c]
    else if c.toNat < 0x100 then '\\' :: 'x' :: Text.padded 16 2 c.toNat
    else if c.toNat < 0x10000 then '\\' :: 'u' :: Text.padded 16 4 c.toNat
    else '\\' :: 'U' :: Text.padded 16 8 c.toNat

/-- A double as the letter of a placeholder asks for it. -/
def Placement.double (placement : Placement) (style : Decimal.Style) (value : Value) :
    Except Failure (List Char) := do
  let x ← doubleOf value
  return placement.signed (style.text placement.full (placement.precision.getD 6) x)

/-- A value as the text that a placeholder with the given letter, at the given position of the
message, asks for. -/
def Placement.put (placement : Placement) (letter : Char) (position : Nat) (value : Value) :
    Except Failure (List Char) :=
  match letter with
  | 's' => .ok (placement.cut value.text.toList)
  | 'r' => .ok (placement.cut value.literal.toList)
  | 'a' => .ok (placement.cut (plainText value.literal.toList))
  | 'd' | 'i' | 'u' => do return placement.whole [] 10 (← wholeOf letter value)
  | 'x' => do return placement.whole ['0', 'x'] 16 (← wholeOf letter value)
  | 'X' => do return (placement.whole ['0', 'x'] 16 (← wholeOf letter value)).map Char.toUpper
  | 'o' => do return placement.whole ['0', 'o'] 8 (← wholeOf letter value)
  | 'f' => placement.double .fixed value
  | 'e' => placement.double .scientific value
  | 'g' => placement.double .general value
  | 'F' => do return (← placement.double .fixed value).map Char.toUpper
  | 'E' => do return (← placement.double .scientific value).map Char.toUpper
  | 'G' => do return (← placement.double .general value).map Char.toUpper
  | 'c' => do return placement.fill [← characterOf value]
  | _ =>
    let shown := if 31 ≤ letter.toNat && letter.toNat < 128 then letter else '?'
    .error (.value ("unsupported format character '" ++ String.singleton shown ++ "' (0x"
      ++ String.ofList (Nat.toDigits 16 letter.toNat) ++ ") at index "
      ++ (Number.int position).text))

end Orchestra.Logging
