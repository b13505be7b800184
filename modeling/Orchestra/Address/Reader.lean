import Orchestra.Address.Basic

/-!
Reading of internet addresses.

An IPv4 address is four decimal octets without leading zeros. An IPv6 address is eight groups of up
to four hexadecimal digits; one run of zero groups may be left out, the last two groups may be
written as octets, and a scope may follow a percent sign.
-/

namespace Orchestra

/-- The parts of a text between separators; there is always at least one. -/
def Text.splitAt (separator : Char) : List Char → List (List Char)
  | [] => [[]]
  | c :: rest =>
    match Text.splitAt separator rest with
    | [] => [[c]]
    | part :: parts => if c == separator then [] :: part :: parts else (c :: part) :: parts

namespace Address

/-- An octet in decimal digits, without a leading zero. -/
def readOctet (cs : List Char) : Option Nat :=
  if cs.isEmpty || !cs.all Char.isDigit || 3 < cs.length then none
  else if cs.head? == some '0' && cs.length != 1 then none
  else
    let value := cs.foldl (fun n c => 10 * n + (c.toNat - 48)) 0
    if value ≤ 255 then some value else none

/-- Four octets as one number. -/
def readV4 (cs : List Char) : Option Nat := do
  match Text.splitAt '.' cs with
  | [a, b, c, d] =>
    return (((← readOctet a) * 256 + (← readOctet b)) * 256 + (← readOctet c)) * 256
      + (← readOctet d)
  | _ => none

/-- The value of a hexadecimal digit. -/
def hexDigit? (c : Char) : Option Nat :=
  if c.isDigit then some (c.toNat - 48)
  else if 'a' ≤ c && c ≤ 'f' then some (c.toNat - 87)
  else if 'A' ≤ c && c ≤ 'F' then some (c.toNat - 55)
  else none

/-- A group of one to four hexadecimal digits. -/
def readGroup (cs : List Char) : Option Nat :=
  if cs.isEmpty || 4 < cs.length then none
  else cs.foldlM (fun n c => (hexDigit? c).map fun digit => 16 * n + digit) 0

/-- Groups in a row as one number. -/
def readGroups (groups : List (List Char)) : Option Nat :=
  groups.foldlM (fun n cs => (readGroup cs).map fun group => 65536 * n + group) 0

/-- The parts between colons, with octets at the end made into two groups. -/
def withoutOctets (parts : List (List Char)) : Option (List (List Char)) :=
  match parts.getLast? with
  | some tail =>
    if tail.contains '.' then
      (readV4 tail).map fun bits =>
        parts.dropLast ++ [Nat.toDigits 16 (bits / 65536), Nat.toDigits 16 (bits % 65536)]
    else some parts
  | none => some parts

/-- The positions of empty parts, the first and last part aside. -/
def gaps (parts : List (List Char)) : List Nat :=
  (List.range parts.length).filter fun i =>
    0 < i && i + 1 < parts.length && (parts[i]?.map List.isEmpty).getD false

/-- The groups before a gap: an empty one only where the gap is at the very start. -/
def beforeGap (parts : List (List Char)) : Option (List (List Char)) :=
  match parts with
  | [] :: rest => if rest.isEmpty then some [] else none
  | parts => some parts

/-- The groups after a gap: an empty one only where the gap is at the very end. -/
def afterGap (parts : List (List Char)) : Option (List (List Char)) :=
  match parts.reverse with
  | [] :: rest => if rest.isEmpty then some [] else none
  | _ => some parts

/-- Eight groups, or fewer around a gap, as one number. -/
def readV6 (cs : List Char) : Option Nat := do
  let parts := Text.splitAt ':' cs
  if parts.length < 3 then none
  let parts ← withoutOctets parts
  if 9 < parts.length then none
  match gaps parts with
  | [] => if parts.length == 8 then readGroups parts else none
  | [gap] =>
    let front ← beforeGap (parts.take gap)
    let back ← afterGap (parts.drop (gap + 1))
    if 8 ≤ front.length + back.length then none
    return (← readGroups front) * Nat.pow 65536 (8 - front.length) + (← readGroups back)
  | _ => none

/-- A text in front of its scope; a scope is not empty and holds no percent sign and no slash. -/
def withoutScope (cs : List Char) : Option (List Char) :=
  match Text.splitAt '%' cs with
  | [body] => some body
  | [body, c :: scope] => if (c :: scope).contains '/' then none else some body
  | _ => none

/-- The address that a text spells. -/
def ofText? (s : String) : Option Address :=
  match readV4 s.toList with
  | some bits => some (.v4 bits)
  | none => ((withoutScope s.toList).bind readV6).map .v6

/-- The address of a number: the short form where the number fits into it. -/
def ofNumber? (n : Int) : Option Address :=
  if n < 0 then none
  else if n < Nat.pow 2 32 then some (.v4 n.toNat)
  else if n < Nat.pow 2 128 then some (.v6 n.toNat)
  else none

/-- A text that spells an internal address. -/
def isInternalText (s : String) : Bool :=
  ((ofText? s).map isInternal).getD false

end Address

end Orchestra
