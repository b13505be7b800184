import Orchestra.Value.Order

/-!
Arithmetic on values that come as plain data.

Numbers are computed with as numbers, booleans as zero and one. A string or a list times a whole
number is repeated. Every other pair of operands is refused, with the operation and the kinds of the
operands.
-/

namespace Orchestra

/-- Why an operation cannot be done on its operands. -/
inductive OperandFault where
  | unsupported (operator left right : String)
  /-- The operands have no order. -/
  | unordered (symbol left right : String)
  /-- Nothing but its like can be put at the end of a string or a list. -/
  | unjoinable (left right : String)
  | unrepeatable (kind : String)
  | unsigned (kind : String)
  | unroundable (kind : String)
  /-- A repetition that is too long to be counted. -/
  | countless
  | range (error : RangeError)
deriving DecidableEq, Repr

def OperandFault.message : OperandFault → String
  | .unsupported operator left right =>
    "unsupported operand type(s) for " ++ operator ++ ": '" ++ left ++ "' and '" ++ right ++ "'"
  | .unordered symbol left right =>
    "'" ++ symbol ++ "' not supported between instances of '" ++ left ++ "' and '" ++ right ++ "'"
  | .unjoinable left right =>
    "can only concatenate " ++ left ++ " (not \"" ++ right ++ "\") to " ++ left
  | .unrepeatable kind => "can't multiply sequence by non-int of type '" ++ kind ++ "'"
  | .unsigned kind => "bad operand type for unary -: '" ++ kind ++ "'"
  | .unroundable kind => "type " ++ kind ++ " doesn't define __round__ method"
  | .countless => "cannot fit 'int' into an index-sized integer"
  | .range error => error.message

namespace Value

/-- The whole number that a value counts as. -/
def whole? : Value → Option Int
  | .int n => some n
  | .bool b => some (if b then 1 else 0)
  | _ => none

/-- The least whole number that is not below a number; one beyond all that is counted where the
number is infinite, and zero for what is no number. -/
def ceiling (value : Value) : Int :=
  match value.number? with
  | some (.int n) => n
  | some (.float x) =>
    match Decimal.Binary.ofFloat x with
    | .infinite negative => if negative then -(Nat.pow 2 63) else Nat.pow 2 63
    | binary => binary.ceiling?.getD 0
  | none => 0

mutual

/-- The order of two values as an operation, written by its symbol, asks for it; none when a number
is not-a-number. -/
def ordering (symbol : String) : Value → Value → Except OperandFault (Option Ordering)
  | .list xs, .list ys => listOrdering symbol xs ys
  | a, b =>
    match a.number?, b.number? with
    | some x, some y => .ok (compareNumbers x y)
    | _, _ =>
      match a.text?, b.text? with
      | some s, some t => .ok (some (compareChars s.toList t.toList))
      | _, _ => .error (.unordered symbol a.kindName b.kindName)

/-- The first unequal pair decides, else the lengths. -/
def listOrdering (symbol : String) : List Value → List Value → Except OperandFault (Option Ordering)
  | [], [] => .ok (some .eq)
  | [], _ :: _ => .ok (some .lt)
  | _ :: _, [] => .ok (some .gt)
  | x :: xs, y :: ys => if x.same y then listOrdering symbol xs ys else ordering symbol x y

end

/-- The first value is less than the second. -/
def less (a b : Value) : Except OperandFault Bool :=
  (ordering "<" a b).map (· == some .lt)

/-- The first value is greater than the second. -/
def greater (a b : Value) : Except OperandFault Bool :=
  (ordering ">" a b).map (· == some .gt)

/-- The first value is at least the second. -/
def atLeast (a b : Value) : Except OperandFault Bool :=
  (ordering ">=" a b).map (Option.any Ordering.isGE)

/-- The first value is at most the second. -/
def atMost (a b : Value) : Except OperandFault Bool :=
  (ordering "<=" a b).map (Option.any Ordering.isLE)

/-- The lesser of two values, the first of two equal ones. -/
def least (a b : Value) : Except OperandFault Value := do
  return if ← b.less a then b else a

/-- The greater of two values, the first of two equal ones. -/
def greatest (a b : Value) : Except OperandFault Value := do
  return if ← b.greater a then b else a

/-- A string or a list. -/
def isSequence : Value → Bool
  | .str _ | .list _ => true
  | _ => false

/-- A string or a list several times in a row; one that would be too long is refused. -/
def repeated (sequence : Value) (count : Int) : Except OperandFault Value :=
  if Nat.pow 2 63 ≤ count then .error .countless
  else
    match sequence with
    | .str s => .ok (.str (String.ofList (List.replicate count.toNat s.toList).flatten))
    | .list items => .ok (.list (List.replicate count.toNat items).flatten)
    | other => .ok other

/-- An operation on numbers, where both operands are numbers. -/
def onNumbers (operator : String) (operation : Number → Number → Except RangeError Number)
    (a b : Value) : Except OperandFault Value :=
  match a.number?, b.number? with
  | some x, some y => ((operation x y).mapError .range).map ofNumber
  | _, _ => .error (.unsupported operator a.kindName b.kindName)

def times (a b : Value) : Except OperandFault Value :=
  let (sequence, factor) := if a.isSequence then (a, b) else (b, a)
  if sequence.isSequence then
    match factor.whole? with
    | some count => sequence.repeated count
    | none => .error (.unrepeatable factor.kindName)
  else onNumbers "*" Number.mul a b

/-- A value plus a whole number. -/
def plusWhole (value : Value) (n : Int) : Except OperandFault Value :=
  if value.isSequence then .error (.unjoinable value.kindName "int")
  else onNumbers "+" Number.add value (.int n)

def minus (a b : Value) : Except OperandFault Value :=
  onNumbers "-" Number.sub a b

def power (base exponent : Value) : Except OperandFault Value :=
  onNumbers "** or pow()" Number.pow base exponent

/-- A power is no real number. -/
def hasComplexPower (base exponent : Value) : Bool :=
  match base.number?, exponent.number? with
  | some x, some y => x.hasComplexPower y
  | _, _ => false

/-- The quotient by a positive whole number, as a double. -/
def dividedBy (value : Value) (divisor : Nat) : Except OperandFault Float :=
  match value.number? with
  | some n => (n.divBy divisor).mapError .range
  | none => .error (.unsupported "/" value.kindName "int")

/-- The number that a value is, to be given the opposite sign. -/
def signed (value : Value) : Except OperandFault Number :=
  match value.number? with
  | some n => .ok n
  | none => .error (.unsigned value.kindName)

/-- A number rounded to decimal places. -/
def rounded (places : Nat) (value : Value) : Except OperandFault Value :=
  match value.number? with
  | some n => .ok (ofNumber (n.roundTo places))
  | none => .error (.unroundable value.kindName)

end Value

end Orchestra
