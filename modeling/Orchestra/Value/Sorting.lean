import Orchestra.Value.Arithmetic

/-!
Sorting of values, which is refused as soon as two values that are compared have no order.

The values that stand in order at the start form a run, which is turned around when it descends; every
other value is put in its place in the run by halving.
-/

namespace Orchestra.Value

/-- How many values go on with a run after its last one. -/
def runAfter (descending : Bool) (last : Value) : List Value → Except OperandFault Nat
  | [] => .ok 0
  | value :: rest => do
    if (← value.less last) == descending then return (← runAfter descending value rest) + 1
    else return 0

/-- The place of a value between two places of a run; `steps` bounds the number of halvings. -/
def placeIn (value : Value) (run : Array Value) (low high : Nat) :
    (steps : Nat) → Except OperandFault Nat
  | 0 => .ok low
  | steps + 1 =>
    if high ≤ low then .ok low
    else do
      let middle := (low + high) / 2
      match run[middle]? with
      | none => return low
      | some other =>
        if ← value.less other then placeIn value run low middle steps
        else placeIn value run (middle + 1) high steps

/-- Puts a value in its place in a run. -/
def insertInto (run : List Value) (value : Value) : Except OperandFault (List Value) := do
  let place ← placeIn value run.toArray 0 run.length (run.length + 1)
  return run.take place ++ value :: run.drop place

/-- The values in ascending order. -/
def sorted : List Value → Except OperandFault (List Value)
  | first :: second :: rest => do
    let descending ← second.less first
    let more ← runAfter descending second rest
    let run := first :: second :: rest.take more
    (rest.drop more).foldlM insertInto (if descending then run.reverse else run)
  | values => .ok values

end Orchestra.Value
