import Orchestra.Decimal.Binary
import Orchestra.Decimal.Layout
import Orchestra.Decimal.Power

/-!
Numbers: unbounded integers and doubles, and the arithmetic that mixes them.

An operation on two integers is exact. As soon as a double takes part the integers are rounded to
doubles first, which fails for integers beyond the greatest double.
-/

namespace Orchestra

inductive Number where
  | int (n : Int)
  | float (x : Float)
deriving DecidableEq

/-- The ways in which arithmetic leaves the range of doubles. -/
inductive RangeError where
  | integerTooLarge
  | powerTooLarge
  | quotientTooLarge
deriving DecidableEq, Repr

def RangeError.message : RangeError → String
  | .integerTooLarge => "int too large to convert to float"
  | .powerTooLarge => "(34, 'Numerical result out of range')"
  | .quotientTooLarge => "integer division result too large for a float"

namespace Number

/-- Where a number stands on the line of finite numbers and the two infinities. -/
inductive Position where
  | bottom
  | finite (scaled : Int)
  | top
deriving DecidableEq, Repr

/-- The exact position, counted in units of two to the minus 1074th; none for not-a-number. -/
def position? : Number → Option Position
  | .int n => some (.finite (n * (Nat.pow 2 1074 : Nat)))
  | .float x =>
    match Decimal.Binary.ofFloat x with
    | .nan => none
    | .infinite negative => some (if negative then .bottom else .top)
    | binary => binary.scaled?.map .finite

/-- The order of positions. -/
def Position.below : Position → Position → Bool
  | .bottom, .bottom => false
  | .bottom, _ => true
  | _, .bottom => false
  | .top, _ => false
  | _, .top => true
  | .finite a, .finite b => a < b

/-- Exact comparison; not-a-number is below nothing. -/
def below (a b : Number) : Bool :=
  match a.position?, b.position? with
  | some p, some q => p.below q
  | _, _ => false

/-- Exact equality; not-a-number equals nothing. -/
def same (a b : Number) : Bool :=
  match a.position?, b.position? with
  | some p, some q => p == q
  | _, _ => false

/-- The double next to an integer. -/
def floatOfInt (n : Int) : Except RangeError Float :=
  let x := Decimal.roundToFloat (n < 0) n.natAbs 1
  if x.isFinite then .ok x else .error .integerTooLarge

def toFloat : Number → Except RangeError Float
  | .int n => floatOfInt n
  | .float x => .ok x

/-- An operation that is exact on integers and rounds when a double takes part. -/
def combine (exact : Int → Int → Int) (rounded : Float → Float → Float) :
    Number → Number → Except RangeError Number
  | .int a, .int b => .ok (.int (exact a b))
  | a, b => do return .float (rounded (← a.toFloat) (← b.toFloat))

def add : Number → Number → Except RangeError Number :=
  combine (· + ·) (· + ·)

def sub : Number → Number → Except RangeError Number :=
  combine (· - ·) (· - ·)

def mul : Number → Number → Except RangeError Number :=
  combine (· * ·) (· * ·)

def neg : Number → Number
  | .int n => .int (-n)
  | .float x => .float (-x)

/-- An integer to a natural power. The powers of zero and one and minus one are known at once,
however large the exponent. -/
def powInt (n : Int) (exponent : Nat) : Int :=
  if n == 1 || exponent == 0 then 1
  else if n == 0 then 0
  else if n == -1 then if exponent % 2 == 0 then 1 else -1
  else Int.pow n exponent

/-- A double to a power that is a double. -/
def powFloat (x y : Float) : Float :=
  match (Decimal.Binary.ofFloat y).natural? with
  | some exponent => Decimal.powFloat x exponent
  | none => Float.pow x y

/-- A double to a power; a finite one must not become infinite. -/
def boundedPow (x y : Float) : Except RangeError Number :=
  let power := powFloat x y
  if x.isFinite && y.isFinite && !power.isFinite then .error .powerTooLarge else .ok (.float power)

/-- A power with an exponent that is not negative. -/
def pow : Number → Number → Except RangeError Number
  | .int n, .int exponent => .ok (.int (powInt n exponent.toNat))
  | x, y => do boundedPow (← x.toFloat) (← y.toFloat)

/-- A power is no real number: that of a negative number with an exponent that is not whole. -/
def hasComplexPower (base exponent : Number) : Bool :=
  match base.toFloat, exponent with
  | .ok x, .float y =>
    x.isFinite && x < 0.0 && y.isFinite && !(Decimal.Binary.ofFloat y).isWhole
  | _, _ => false

/-- The quotient by a positive whole number, as a double. -/
def divBy (divisor : Nat) : Number → Except RangeError Float
  | .int n =>
    let x := Decimal.roundToFloat (n < 0) n.natAbs divisor
    if x.isFinite then .ok x else .error .quotientTooLarge
  | .float x => .ok (x / Decimal.roundToFloat false divisor 1)

/-- The lesser of two numbers, the first of two equal ones. -/
def least (a b : Number) : Number :=
  if b.below a then b else a

/-- The greater of two numbers, the first of two equal ones. -/
def greatest (a b : Number) : Number :=
  if a.below b then b else a

def isPositive (a : Number) : Bool :=
  (Number.int 0).below a

/-- A number rounded to decimal places; integers stay as they are. -/
def roundTo (places : Nat) : Number → Number
  | .int n => .int n
  | .float x => .float (Decimal.roundTo places x)

def text : Number → String
  | .int n => String.ofList (Text.integerText n)
  | .float x => Decimal.plainLayout.render x

end Number

end Orchestra
