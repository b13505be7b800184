import Orchestra.Decimal.Binary
import Orchestra.Decimal.Layout

/-!
Doubles rounded to a number of significant digits; a half goes to the even neighbour.
-/

namespace Orchestra.Decimal

/-- The first `count` digits of a finite double, rounded, and the place of the leading one. -/
def significant (count mantissa : Nat) (exponent : Int) : List Char × Int :=
  if mantissa == 0 then (List.replicate count '0', 0)
  else
    let (numerator, denominator) := scaleByTwo mantissa exponent
    let place := leadingPlace numerator denominator
    let shift := (count : Int) - 1 - place
    let units := roundDiv (numerator * Nat.pow 10 shift.toNat)
      (denominator * Nat.pow 10 (-shift).toNat)
    let digits := Text.naturalText units
    if count < digits.length then (digits.take count, place + 1) else (digits, place)

/-- Digits with a point after the first `whole` of them; a point at the end is left out unless it is
wanted. -/
def pointed (point : Bool) (whole : Nat) (digits : List Char) : List Char :=
  let fraction := digits.drop whole
  digits.take whole ++ (if fraction.isEmpty && !point then [] else '.' :: fraction)

/-- Digits whose leading one stands at `place`, with an exponent of at least two digits. -/
def withExponent (point : Bool) (digits : List Char) (place : Int) : List Char :=
  pointed point 1 digits ++ 'e' :: (if place < 0 then '-' else '+')
    :: Text.padded 10 2 place.natAbs

/-- The ways to write a double with a given precision. -/
inductive Style where
  /-- The precision is the number of places after the point. -/
  | fixed
  /-- The precision is the number of digits after the leading one. -/
  | scientific
  /-- The precision is the number of digits; zeros at the end are left out. -/
  | general
deriving DecidableEq, Repr

/-- A finite double without its sign; with `point` set the point and the zeros after it stay. -/
def Style.finite (style : Style) (point : Bool) (precision mantissa : Nat) (exponent : Int) :
    List Char :=
  match style with
  | .fixed =>
    let digits := Text.padded 10 (precision + 1) (roundedUnits mantissa exponent precision)
    pointed point (digits.length - precision) digits
  | .scientific =>
    let (digits, place) := significant (precision + 1) mantissa exponent
    withExponent point digits place
  | .general =>
    let count := max precision 1
    let (all, place) := significant count mantissa exponent
    let shown (whole : Nat) (digits : List Char) : List Char :=
      if point then digits
      else digits.take whole ++ stripZeros (digits.drop whole)
    if -4 ≤ place && place < (count : Int) then
      let whole := place.toNat + 1
      pointed point whole (shown whole (List.replicate (-place).toNat '0' ++ all))
    else withExponent point (shown 1 all) place

/-- A double with the given precision. -/
def Style.text (style : Style) (point : Bool) (precision : Nat) (x : Float) : List Char :=
  match Binary.ofFloat x with
  | .nan => "nan".toList
  | .infinite negative => (if negative then "-inf" else "inf").toList
  | .finite negative mantissa exponent =>
    let body := style.finite point precision mantissa exponent
    if negative then '-' :: body else body

end Orchestra.Decimal
