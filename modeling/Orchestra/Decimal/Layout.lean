import Orchestra.Decimal.Shortest
import Orchestra.Text.Integer

/-!
How the shortest digits of a double are laid out as text.
-/

namespace Orchestra.Decimal

/-- The decisions of a decimal notation. -/
structure Layout where
  /-- The least place of the leading digit that is written without an exponent. -/
  leastPlace : Int
  /-- The greatest place of the leading digit that is written without an exponent. -/
  greatestPlace : Int
  /-- The least number of digits of an exponent. -/
  exponentDigits : Nat
  nanText : String
  infinityText : String

/-- Numbers from `0.0001` up to sixteen whole digits are written without an exponent, and a whole
number keeps one zero after the point. -/
def plainLayout : Layout :=
  { leastPlace := -4, greatestPlace := 15, exponentDigits := 2,
    nanText := "nan", infinityText := "inf" }

/-- The notation of data files, which names the values that are no numbers by their full names. -/
def dataLayout : Layout :=
  { plainLayout with nanText := "NaN", infinityText := "Infinity" }

/-- Digits without the zeros at their end. -/
def stripZeros (digits : List Char) : List Char :=
  (digits.reverse.dropWhile (· == '0')).reverse

/-- A digit string whose leading digit stands at `place`, without an exponent. -/
def positional (digits : List Char) (place : Int) : List Char :=
  if place < 0 then
    '0' :: '.' :: List.replicate ((-place).toNat - 1) '0' ++ digits
  else
    let whole := place.toNat + 1
    if digits.length ≤ whole then
      digits ++ List.replicate (whole - digits.length) '0' ++ ['.', '0']
    else digits.take whole ++ '.' :: digits.drop whole

/-- A digit string whose leading digit stands at `place`, with an exponent. -/
def scientific (layout : Layout) (digits : List Char) (place : Int) : List Char :=
  let mantissa :=
    match digits with
    | [] => ['0']
    | [d] => [d]
    | d :: rest => d :: '.' :: rest
  let sign := if place < 0 then '-' else '+'
  mantissa ++ 'e' :: sign :: Text.padded 10 layout.exponentDigits place.natAbs

/-- The text of a double: its shortest digits in the given layout. -/
def Layout.render (layout : Layout) (x : Float) : String :=
  match Binary.ofFloat x with
  | .nan => layout.nanText
  | .infinite negative => if negative then "-" ++ layout.infinityText else layout.infinityText
  | .finite negative mantissa exponent =>
    let body :=
      if mantissa == 0 then ['0', '.', '0']
      else
        let found := shortest mantissa exponent
        let all := Text.naturalText found.digits
        let place := found.scale + (all.length : Int) - 1
        let digits := stripZeros all
        if layout.leastPlace ≤ place && place ≤ layout.greatestPlace then positional digits place
        else scientific layout digits place
    String.ofList (if negative then '-' :: body else body)

end Orchestra.Decimal
