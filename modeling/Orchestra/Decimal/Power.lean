import Orchestra.Decimal.Binary

/-!
Powers of doubles with natural exponents, rounded once at the end.

The product is kept with 320 significant bits, so a power that needs fewer is exact.
-/

namespace Orchestra.Decimal

/-- A binary number `mantissa · 2^exponent` with a bounded number of significant bits. -/
structure Wide where
  mantissa : Nat
  exponent : Int

/-- Drops the bits beyond the first 320. -/
def Wide.cut (x : Wide) : Wide :=
  let size := x.mantissa.log2 + 1
  if size ≤ 320 then x
  else ⟨x.mantissa / Nat.pow 2 (size - 320), x.exponent + ((size - 320 : Nat) : Int)⟩

def Wide.mul (x y : Wide) : Wide :=
  Wide.cut ⟨x.mantissa * y.mantissa, x.exponent + y.exponent⟩

/-- The power read off the binary digits of the exponent, the highest first. -/
def Wide.pow (x : Wide) (exponent : Nat) : Wide :=
  (Nat.toDigits 2 exponent).foldl
    (fun power digit =>
      let square := power.mul power
      if digit == '1' then square.mul x else square)
    ⟨1, 0⟩

/-- The double next to a wide number; far out of range it is infinite or zero. -/
def Wide.toFloat (negative : Bool) (x : Wide) : Float :=
  let top := x.exponent + (x.mantissa.log2 : Int)
  if x.mantissa == 0 || top < -1200 then roundToFloat negative 0 1
  else if 1100 < top then roundToFloat negative 1 0
  else
    let (numerator, denominator) := scaleByTwo x.mantissa x.exponent
    roundToFloat negative numerator denominator

/-- A double to a natural power. -/
def powFloat (x : Float) (exponent : Nat) : Float :=
  let odd := exponent % 2 == 1
  match Binary.ofFloat x with
  | .nan => if exponent == 0 then 1.0 else x
  | .infinite negative => if exponent == 0 then 1.0 else roundToFloat (negative && odd) 1 0
  | .finite negative mantissa power =>
    (Wide.pow ⟨mantissa, power⟩ exponent).toFloat (negative && odd)

end Orchestra.Decimal
