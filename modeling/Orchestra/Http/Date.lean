import Orchestra.Calendar
import Orchestra.Text.Blank
import Orchestra.Text.Case
import Orchestra.Text.Integer

/-!
Dates in headers.

The strict form is "Wed, 09 Feb 1994 22:23:32 GMT". Other forms are read loosely: day, month and year
between blanks, hyphens or slashes, perhaps a time of day, perhaps a time zone. Points in time are
counted in seconds from the start of the year 2024.
-/

namespace Orchestra.Http

/-- What a text is as a date. -/
inductive DateReading where
  | instant (seconds : Int)
  | unreadable
  /-- A date in the strict form, but of no month. -/
  | monthless
deriving DecidableEq, Repr

namespace DateReading

/-- A date with a time of day, as it was written. -/
structure Parts where
  day : Int
  month : Int
  year : Int
  hour : Int := 0
  minute : Int := 0
  second : Int := 0

/-- The point in time that the parts name in universal time; none when a part is out of its range. -/
def Parts.seconds? (parts : Parts) : Option Int :=
  if 1970 ≤ parts.year && 1 ≤ parts.month && parts.month ≤ 12 && 1 ≤ parts.day && parts.day ≤ 31
      && parts.hour ≤ 24 && parts.minute ≤ 59 && parts.second ≤ 61 then
    let days := Calendar.daysOfDate ⟨parts.year, parts.month, parts.day⟩ - Calendar.startOf2024
    some (days * 86400 + parts.hour * 3600 + parts.minute * 60 + parts.second)
  else none

def months : List String :=
  ["jan", "feb", "mar", "apr", "may", "jun", "jul", "aug", "sep", "oct", "nov", "dec"]

/-- The number of a month by the first three letters of its name. -/
def namedMonth? (name : List Char) : Option Int :=
  (months.findIdx? (·.toList == name.map Char.toLower)).map fun index => (index + 1 : Nat)

/-- The number that a run of digits spells. -/
def number (digits : List Char) : Int :=
  ((Text.readNatural digits).map Int.ofNat).getD 0

/-! The strict form -/

/-- A character fits a place of the strict form. -/
def fits (place c : Char) : Bool :=
  match place with
  | 'W' => "SMTWF".toList.contains c
  | 'N' => "JFMASOND".toList.contains c
  | 'a' => c.isLower
  | '0' => c.isDigit
  | place => c == place

def isStrict (cs : List Char) : Bool :=
  let front := cs.take 26
  front.length == 26 && (List.zip "Waa, 00 Naa 0000 00:00:00 ".toList front).all (fun (p, c) => fits p c)
    && cs.drop 26 == ['G', 'M', 'T']

def ofStrict (cs : List Char) : DateReading :=
  let part (start length : Nat) : Int := number ((cs.drop start).take length)
  match namedMonth? ((cs.drop 8).take 3) with
  | none => .monthless
  | some month =>
    let parts : Parts :=
      { day := part 5 2, month, year := part 12 4
        hour := part 17 2, minute := part 20 2, second := part 23 2 }
    (parts.seconds?.map .instant).getD .unreadable

/-! Loose forms -/

def isSpace (c : Char) : Bool :=
  c == ' ' || (9 ≤ c.toNat && c.toNat ≤ 13)

def isWordChar (c : Char) : Bool :=
  c.isAlphanum || c == '_'

/-- A text without a day of the week at its start. -/
def withoutWeekday (cs : List Char) : List Char :=
  if ["sun", "mon", "tue", "wed", "thu", "fri", "sat"].any fun name =>
      name.toList == (cs.take 3).map Char.toLower then
    match (cs.drop 3).dropWhile Char.isAlpha with
    | ',' :: rest => rest.dropWhile isSpace
    | rest => rest.dropWhile isSpace
  else cs

/-- One or two digits, and the rest. -/
def shortNumber? : List Char → Option (List Char × List Char)
  | c :: d :: rest =>
    if !c.isDigit then none
    else if d.isDigit then some ([c, d], rest) else some ([c], d :: rest)
  | [c] => if c.isDigit then some ([c], []) else none
  | [] => none

/-- What follows a separator between day, month and year. -/
def separated? : List Char → Option (List Char)
  | [] => none
  | c :: rest =>
    if c == '-' || c == '/' then some rest
    else if isSpace c then some (rest.dropWhile isSpace)
    else none

/-- Two digits after a colon, and the rest. -/
def colonNumber? : List Char → Option (Int × List Char)
  | ':' :: c :: d :: rest =>
    if c.isDigit && d.isDigit then some (number [c, d], rest) else none
  | _ => none

/-- A time of day after blanks or a colon: hour, minute and perhaps second, and the rest. -/
def clock? (cs : List Char) : Option ((Int × Int × Int) × List Char) := do
  let afterMark ←
    match cs with
    | ':' :: rest => some rest
    | c :: rest => if isSpace c then some (rest.dropWhile isSpace) else none
    | [] => none
  let (hour, rest) ← shortNumber? afterMark
  let (minute, rest) ← colonNumber? rest
  match colonNumber? rest with
  | some (second, rest) => some ((number hour, minute, second), rest)
  | none => some ((number hour, minute, 0), rest)

/-- A time zone by digits or letters, and the rest; the halves of the day are none. -/
def zone? (cs : List Char) : Option (List Char × List Char) :=
  let (sign, body) :=
    match cs with
    | '+' :: rest => (['+'], rest)
    | '-' :: rest => (['-'], rest)
    | rest => ([], rest)
  let digits := (body.take 4).takeWhile Char.isDigit
  if 2 ≤ digits.length then some (sign ++ digits, body.drop digits.length)
  else
    let letters := cs.takeWhile Char.isAlpha
    let rest := cs.drop letters.length
    let isHalf :=
      ["am", "pm"].any (·.toList == letters.map Char.toLower)
        && !((rest.head?.map isWordChar).getD false)
    if letters.isEmpty || isHalf then none else some (letters, rest)

/-- The seconds by which a time zone is ahead of universal time. -/
def zoneSeconds? (zone : List Char) : Option Int :=
  if ["GMT", "UTC", "UT", "Z"].any (·.toList == zone.map Char.toUpper) then some 0
  else
    let (sign, digits) : Int × List Char :=
      match zone with
      | '-' :: digits => (-1, digits)
      | '+' :: digits => (1, digits)
      | digits => (1, digits)
    if digits.isEmpty || !digits.all Char.isDigit then none
    else
      let hours := if digits.length % 2 == 0 then digits.take 2 else digits.take 1
      some (sign * (3600 * number hours + 60 * number (digits.drop hours.length)))

/-- A remark in parentheses at the end of a text holds one word. -/
def isRemark : List Char → Bool
  | '(' :: rest =>
    match rest.dropWhile isWordChar with
    | ')' :: tail => (rest.head?.map isWordChar).getD false && tail.all isSpace
    | _ => false
  | rest => rest.isEmpty

/-- A month by its name or its number. -/
def month? (text : List Char) : Option Int :=
  match namedMonth? text with
  | some month => some month
  | none =>
    match Text.readBounded text with
    | .ok month => if 1 ≤ month && month ≤ 12 then some month else none
    | .error _ => none

/-- A year of less than four digits is one of those around the start of the year 2024. -/
def fullYear (year : Int) : Int :=
  if 1000 ≤ year then year else if year ≤ 74 then 2000 + year else 1900 + year

def ofLoose (cs : List Char) : Option Int := do
  let (day, rest) ← shortNumber? (withoutWeekday (cs.dropWhile Text.isBlank))
  let rest ← separated? rest
  let monthText := rest.takeWhile isWordChar
  let rest ← if monthText.isEmpty then none else separated? (rest.drop monthText.length)
  let yearText := rest.takeWhile Char.isDigit
  if yearText.isEmpty then failure
  let rest := rest.drop yearText.length
  let ((hour, minute, second), rest) := (clock? rest).getD ((0, 0, 0), rest)
  let rest := rest.dropWhile isSpace
  let (zone, rest) := (zone? rest).getD (['Z'], rest)
  if !isRemark (rest.dropWhile isSpace) then failure
  let year := number yearText
  if 9999 < year then failure
  let parts : Parts :=
    { day := number day, month := ← month? monthText, year := fullYear year, hour, minute, second }
  return (← parts.seconds?) - (← zoneSeconds? zone)

/-- Reads a date. -/
def ofText (cs : List Char) : DateReading :=
  if isStrict cs then ofStrict cs else ((ofLoose cs).map .instant).getD .unreadable

end DateReading

end Orchestra.Http
