import Orchestra.Decimal.Binary

/-!
The shortest decimal digits that read back as a given double.

A double stands for the interval of reals that round to it. On the grid of decimals with a given
last place the two neighbours of the double are tried, and the coarsest grid with a neighbour in
the interval wins.
-/

namespace Orchestra.Decimal

/-- A positive decimal `digits · 10^scale`. -/
structure Digits where
  digits : Nat
  scale : Int
deriving DecidableEq, Repr

/-- The interval of reals that round to a double, over one common denominator. -/
structure Interval where
  low : Nat
  value : Nat
  high : Nat
  denominator : Nat
  closed : Bool

/-- The interval of `mantissa · 2^exponent`; below a power of two the gap is half as wide. -/
def interval (mantissa : Nat) (exponent : Int) : Interval :=
  let narrow := mantissa == Nat.pow 2 52 && exponent != -1074
  let below := if narrow then 1 else 2
  let (unit, denominator) := scaleByTwo 1 exponent
  { low := (4 * mantissa - below) * unit
    value := 4 * mantissa * unit
    high := (4 * mantissa + 2) * unit
    denominator := 4 * denominator
    closed := mantissa % 2 == 0 }

/-- A point `digits / scaleDown · scaleUp` of a decimal grid lies in the interval. -/
def Interval.holds (range : Interval) (digits scaleUp scaleDown : Nat) : Bool :=
  let point := digits * scaleUp * range.denominator
  let low := range.low * scaleDown
  let high := range.high * scaleDown
  if range.closed then low ≤ point && point ≤ high else low < point && point < high

/-- The distance of a grid point from the double, over the common denominator. -/
def Interval.distance (range : Interval) (digits scaleUp scaleDown : Nat) : Nat :=
  let point := digits * scaleUp * range.denominator
  let value := range.value * scaleDown
  (point - value) + (value - point)

/-- The better of the two neighbours on the grid of last place `10^scale`, if one is inside. -/
def Interval.onGrid? (range : Interval) (scale : Int) : Option Digits :=
  let scaleUp := Nat.pow 10 scale.toNat
  let scaleDown := Nat.pow 10 (-scale).toNat
  let floor := range.value * scaleDown / (scaleUp * range.denominator)
  let ceiling := floor + 1
  let low := range.holds floor scaleUp scaleDown && floor != 0
  let high := range.holds ceiling scaleUp scaleDown
  let nearLow := range.distance floor scaleUp scaleDown
  let nearHigh := range.distance ceiling scaleUp scaleDown
  if low && high then
    if nearLow < nearHigh || (nearLow == nearHigh && floor % 2 == 0) then some ⟨floor, scale⟩
    else some ⟨ceiling, scale⟩
  else if low then some ⟨floor, scale⟩
  else if high then some ⟨ceiling, scale⟩
  else none

/-- The first grid with a hit, from the place `scale` downwards. -/
def Interval.search (range : Interval) (scale : Int) : Nat → Option Digits
  | 0 => none
  | fuel + 1 =>
    match range.onGrid? scale with
    | some found => some found
    | none => range.search (scale - 1) fuel

/-- The place of the leading decimal digit of a positive fraction. -/
def leadingPlace (numerator denominator : Nat) : Int :=
  if denominator ≤ numerator then
    ((Nat.toDigits 10 (numerator / denominator)).length : Int) - 1
  else -((Nat.toDigits 10 (denominator / numerator)).length : Int)

/-- The shortest decimal that reads back as `mantissa · 2^exponent`; of two, the nearer one. -/
def shortest (mantissa : Nat) (exponent : Int) : Digits :=
  let range := interval mantissa exponent
  let place := leadingPlace range.value range.denominator
  (range.search (place + 1) 20).getD ⟨mantissa, 0⟩

end Orchestra.Decimal
