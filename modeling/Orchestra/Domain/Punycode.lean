import Orchestra.Text.Integer

/-!
Labels of any script in the letters and digits of ASCII.

The ASCII characters of a label come first. Every other character is a step in a walk over all
positions and code points in order, and the steps are written as numbers whose digits have weights
that adapt to the sizes of the steps before.
-/

namespace Orchestra.Domain

/-- The digit of a value below thirty-six. -/
def digitChar (value : Nat) : Char :=
  if value < 26 then Char.ofNat (97 + value) else Char.ofNat (22 + value)

/-- The value of a digit. -/
def digitOf? (c : Char) : Option Nat :=
  if c.isUpper then some (c.toNat - 65)
  else if c.isLower then some (c.toNat - 97)
  else if c.isDigit then some (c.toNat - 22)
  else none

/-- The least value of a digit at a place that is not the last one. -/
def threshold (place bias : Nat) : Nat :=
  if place ≤ bias then 1 else if bias + 26 ≤ place then 26 else place - bias

/-- Divides a step until it is small, and counts the divisions in steps of thirty-six. -/
def shrink : (fuel step places : Nat) → Nat × Nat
  | 0, step, places => (step, places)
  | fuel + 1, step, places =>
    if 455 < step then shrink fuel (step / 35) (places + 36) else (step, places)

/-- The bias after a step to one of `count` characters. -/
def adapted (step count : Nat) (isFirst : Bool) : Nat :=
  let step := if isFirst then step / 700 else step / 2
  let (step, places) := shrink step (step + step / count) 0
  places + 36 * step / (step + 38)

/-- The digits of a step; `fuel` bounds their number. -/
def stepDigits (bias : Nat) : (fuel place step : Nat) → List Char
  | 0, _, _ => []
  | fuel + 1, place, step =>
    let least := threshold place bias
    if step < least then [digitChar step]
    else
      digitChar (least + (step - least) % (36 - least))
        :: stepDigits bias fuel (place + 36) ((step - least) / (36 - least))

/-- A walk over positions and code points that is being written. -/
structure Walk where
  written : List Char := []
  step : Nat := 0
  bias : Nat := 72
  /-- How many characters are placed. -/
  placed : Nat

/-- Passes a character on the way to the code point `code`, or places it. -/
def Walk.pass (basic code : Nat) (walk : Walk) (c : Char) : Walk :=
  if c.toNat < code then { walk with step := walk.step + 1 }
  else if c.toNat == code then
    { written := walk.written ++ stepDigits walk.bias (walk.step + 1) 36 walk.step
      step := 0
      bias := adapted walk.step (walk.placed + 1) (walk.placed == basic)
      placed := walk.placed + 1 }
  else walk

/-- Places the characters of the given code points, which rise from `next`. -/
def Walk.place (label : List Char) (basic : Nat) (walk : Walk) (next : Nat) : List Nat → Walk
  | [] => walk
  | code :: rest =>
    let walk := { walk with step := walk.step + (code - next) * (walk.placed + 1) }
    let walk := label.foldl (Walk.pass basic code) walk
    Walk.place label basic { walk with step := walk.step + 1 } (code + 1) rest

/-- The code points beyond ASCII of a label in order, each once. -/
def distinctCodes (label : List Char) : List Nat :=
  (((label.map Char.toNat).filter (128 ≤ ·)).mergeSort (· ≤ ·)).eraseReps

/-- A label in ASCII. -/
def punycode (label : List Char) : List Char :=
  let basic := label.filter fun c => c.toNat < 128
  let walk := Walk.place label basic.length { placed := basic.length } 128 (distinctCodes label)
  basic ++ (if basic.isEmpty then [] else ['-']) ++ walk.written

/-- Reads the digits of a step, and returns what follows them. -/
def readStep (bias : Nat) : (place weight step : Nat) → List Char → Option (Nat × List Char)
  | _, _, _, [] => none
  | place, weight, step, c :: rest => do
    let digit ← digitOf? c
    let least := threshold place bias
    let step := step + digit * weight
    if digit < least then some (step, rest)
    else readStep bias (place + 36) (weight * (36 - least)) step rest

/-- Places the characters that steps lead to; `index` is the position after the last one. -/
def unwalk : (fuel : Nat) → (bias code index : Nat) → (isFirst : Bool) → (label digits : List Char) →
    Option (List Char)
  | 0, _, _, _, _, label, _ => some label
  | _ + 1, _, _, _, _, label, [] => some label
  | fuel + 1, bias, code, index, isFirst, label, digits => do
    let (step, rest) ← readStep bias 36 1 0 digits
    let count := label.length + 1
    let code := code + (index + step) / count
    if code.isValidChar then
      let index := (index + step) % count
      unwalk fuel (adapted step count isFirst) code (index + 1) false
        (label.take index ++ Char.ofNat code :: label.drop index) rest
    else none

/-- The label that a text in ASCII stands for. -/
def ofPunycode? (cs : List Char) : Option (List Char) :=
  let tail := (cs.reverse.takeWhile (· != '-')).reverse
  let basic := cs.take (cs.length - tail.length - 1)
  unwalk (tail.length + 1) 72 128 0 true basic tail

example : punycode "bücher".toList = "bcher-kva".toList := by decide +kernel

example : ofPunycode? "bcher-kva".toList = some "bücher".toList := by decide +kernel

end Orchestra.Domain
