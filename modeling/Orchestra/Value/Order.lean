import Orchestra.Value.Basic

/-!
Equality and order of values.

Numbers compare exactly whatever their kind, and booleans count as zero and one. Strings order by
code points and lists by their first unequal pair. Nothing else is ordered.
-/

namespace Orchestra.Value

/-- The order of code points, the shorter of two lists first when one begins the other. -/
def compareChars : List Char → List Char → Ordering
  | [], [] => .eq
  | [], _ :: _ => .lt
  | _ :: _, [] => .gt
  | c :: cs, d :: ds =>
    if c.toNat < d.toNat then .lt
    else if d.toNat < c.toNat then .gt
    else compareChars cs ds

/-- The order of two numbers; none when one is not-a-number. -/
def compareNumbers (a b : Number) : Option Ordering :=
  if a.below b then some .lt
  else if b.below a then some .gt
  else if a.same b then some .eq
  else none

/-- Equality of values that are neither lists nor objects nor parts of the engine. -/
def sameLeaf (a b : Value) : Bool :=
  match a.number?, b.number? with
  | some x, some y => x.same y
  | _, _ =>
    match a.text?, b.text? with
    | some s, some t => s == t
    | _, _ =>
      match a, b with
      | .null, .null => true
      | .operation name, .operation other => name == other
      | _, _ => false

mutual

/-- Equality; the order of keys does not matter. -/
def same : Value → Value → Bool
  | .list xs, .list ys => sameLists xs ys
  | .obj xs, .obj ys => xs.length == ys.length && sameFields xs ys
  | .record kind xs, .record other ys => kind == other && xs.length == ys.length && sameFields xs ys
  | a, b => sameLeaf a b

/-- Lists are equal when they are so place by place. -/
def sameLists : List Value → List Value → Bool
  | [], [] => true
  | x :: xs, y :: ys => x.same y && sameLists xs ys
  | _, _ => false

/-- Every entry of the first fields has an equal one in the second. -/
def sameFields : List (String × Value) → List (String × Value) → Bool
  | [], _ => true
  | (key, value) :: rest, others =>
    (match others.lookup key with
      | some other => value.same other
      | none => false) && sameFields rest others

end

/-- The variables of a loop iteration seen as an object; any other value is itself. -/
def opened (value : Value) : Value :=
  match value with
  | .scope .. => (value.entries?.map Value.obj).getD value
  | _ => value

mutual

/-- The order of two values; none when they cannot be ordered. -/
def compare? : Value → Value → Option Ordering
  | .list xs, .list ys => compareLists xs ys
  | a, b =>
    match a.number?, b.number? with
    | some x, some y => compareNumbers x y
    | _, _ =>
      match a.text?, b.text? with
      | some s, some t => some (compareChars s.toList t.toList)
      | _, _ => none

/-- The first unequal pair decides, else the lengths. -/
def compareLists : List Value → List Value → Option Ordering
  | [], [] => some .eq
  | [], _ :: _ => some .lt
  | _ :: _, [] => some .gt
  | x :: xs, y :: ys => if x.same y then compareLists xs ys else x.compare? y

end

end Orchestra.Value
