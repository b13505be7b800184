/-!
Sets of characters given as sorted, disjoint ranges of code points.
-/

namespace Orchestra.Text

/-- The range that a code point lies in; the search halves the table at each turn. -/
def searchRanges (table : Array (Nat × Nat)) (code : Nat) :
    (fuel low high : Nat) → Option (Nat × Nat)
  | 0, _, _ => none
  | fuel + 1, low, high =>
    if low < high then
      let middle := (low + high) / 2
      match table[middle]? with
      | none => none
      | some (first, last) =>
        if code < first then searchRanges table code fuel low middle
        else if last < code then searchRanges table code fuel (middle + 1) high
        else some (first, last)
    else none

/-- The range of a sorted table that a character lies in. -/
def rangeOf? (table : Array (Nat × Nat)) (c : Char) : Option (Nat × Nat) :=
  searchRanges table c.toNat (table.size + 1) 0 table.size

/-- Membership of a character in a sorted table of ranges. -/
def inRanges (table : Array (Nat × Nat)) (c : Char) : Bool :=
  (rangeOf? table c).isSome

end Orchestra.Text
