/-!
Doubles as exact binary fractions, and their rounding to decimal places; a half goes to the even
neighbour.
-/

namespace Orchestra.Decimal

/-- A double is not a number, an infinity, or a signed whole multiple of a power of two. -/
inductive Binary where
  | nan
  | infinite (negative : Bool)
  | finite (negative : Bool) (mantissa : Nat) (exponent : Int)
deriving DecidableEq, Repr

/-- Reads the sign, exponent and fraction fields of a double. -/
def Binary.ofFloat (x : Float) : Binary :=
  let bits := x.toBits.toNat
  let negative := bits / Nat.pow 2 63 == 1
  let exponent : Nat := bits / Nat.pow 2 52 % 2048
  let fraction : Nat := bits % Nat.pow 2 52
  if exponent == 2047 then
    if fraction == 0 then .infinite negative else .nan
  else if exponent == 0 then .finite negative fraction (-1074)
  else .finite negative (Nat.pow 2 52 + fraction) ((exponent : Int) - 1075)

/-- The exact value as a fraction: a numerator over a positive denominator. -/
def scaleByTwo (mantissa : Nat) (exponent : Int) : Nat × Nat :=
  if 0 ≤ exponent then (mantissa * Nat.pow 2 exponent.toNat, 1)
  else (mantissa, Nat.pow 2 (-exponent).toNat)

/-- A finite double times two to the 1074th, which is always a whole number. -/
def Binary.scaled? : Binary → Option Int
  | .finite negative mantissa exponent =>
    let size : Int := (mantissa * Nat.pow 2 (exponent + 1074).toNat : Nat)
    some (if negative then -size else size)
  | _ => none

/-- A finite double rounded towards zero. -/
def Binary.truncate? : Binary → Option Int
  | .finite negative mantissa exponent =>
    let (numerator, denominator) := scaleByTwo mantissa exponent
    let size : Int := (numerator / denominator : Nat)
    some (if negative then -size else size)
  | _ => none

/-- The least whole number that is not below a finite double. -/
def Binary.ceiling? : Binary → Option Int
  | .finite negative mantissa exponent =>
    let (numerator, denominator) := scaleByTwo mantissa exponent
    some (if negative then -((numerator / denominator : Nat) : Int)
      else ((numerator + denominator - 1) / denominator : Nat))
  | _ => none

/-- The double is a whole number. -/
def Binary.isWhole : Binary → Bool
  | .finite _ mantissa exponent =>
    let (numerator, denominator) := scaleByTwo mantissa exponent
    numerator % denominator == 0
  | _ => false

/-- The natural number that a double is. -/
def Binary.natural? (binary : Binary) : Option Nat :=
  match binary.truncate? with
  | some n => if binary.isWhole && 0 ≤ n then some n.toNat else none
  | none => none

/-- The double next to a quotient of natural numbers, ties to even; infinite when out of range. A
quotient far out of range is not divided. -/
def roundToFloat (negative : Bool) (numerator denominator : Nat) : Float :=
  let x := Float.ofModel (.pack (ratio numerator denominator))
  if negative then -x else x
where
  /-- The quotient of two natural numbers, rounded to a double once. -/
  ratio (numerator denominator : Nat) : Float.Model.UnpackedFloat :=
    if top : numerator = 0 then .zero .positive
    else if bottom : denominator = 0 then .infinity .positive
    else if denominator.log2 + 1100 < numerator.log2 then .infinity .positive
    else if numerator.log2 + 1200 < denominator.log2 then .zero .positive
    else Float.Model.UnpackedFloat.div Float.Model.Format.binary64
      (.finite .positive numerator 0 (Nat.pos_of_ne_zero top))
      (.finite .positive denominator 0 (Nat.pos_of_ne_zero bottom))

/-- The whole number nearest to a quotient, ties to even. -/
def roundDiv (numerator denominator : Nat) : Nat :=
  let quotient := numerator / denominator
  let rest := numerator % denominator
  if 2 * rest < denominator then quotient
  else if denominator < 2 * rest then quotient + 1
  else quotient + quotient % 2

/-- A finite double times `10^places`, rounded to a whole number. -/
def roundedUnits (mantissa : Nat) (exponent : Int) (places : Nat) : Nat :=
  let (numerator, denominator) := scaleByTwo mantissa exponent
  roundDiv (numerator * Nat.pow 10 places) denominator

/-- A double rounded to the nearest decimal with the given number of places. -/
def roundTo (places : Nat) (x : Float) : Float :=
  match Binary.ofFloat x with
  | .finite negative mantissa exponent =>
    roundToFloat negative (roundedUnits mantissa exponent places) (Nat.pow 10 places)
  | _ => x

/-- A finite double rounded to the nearest whole number. -/
def roundWhole? (x : Float) : Option Int :=
  match Binary.ofFloat x with
  | .finite negative mantissa exponent =>
    let size : Int := (roundedUnits mantissa exponent 0 : Nat)
    some (if negative then -size else size)
  | _ => none

end Orchestra.Decimal
