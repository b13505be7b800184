import Orchestra.Number

/-!
Points in time and their written form.

A stamp counts milliseconds from the start of the year 2024. It is written as a date and a time of
day in universal time; a fraction of a second is written in six digits, and only when there is one.
Spans of time count microseconds; both have bounds that calendars keep to.
-/

namespace Orchestra

/-- Milliseconds since 2024-01-01, universal time. -/
abbrev Stamp := Int

namespace Calendar

/-- A date by its year, month and day. -/
structure Date where
  year : Int
  month : Int
  day : Int
deriving DecidableEq, Repr

/-- The date that lies some days after the first of March of the year zero. Years of this count
start in March, so that the leap day is the last one of its year. -/
def dateOfDays (days : Int) : Date :=
  let era := days.fdiv 146097
  let dayOfEra := days.fmod 146097
  let yearOfEra := (dayOfEra - dayOfEra / 1460 + dayOfEra / 36524 - dayOfEra / 146096) / 365
  let dayOfYear := dayOfEra - (365 * yearOfEra + yearOfEra / 4 - yearOfEra / 100)
  let shifted := (5 * dayOfYear + 2) / 153
  let month := if shifted < 10 then shifted + 3 else shifted - 9
  { year := era * 400 + yearOfEra + (if month ≤ 2 then 1 else 0)
    month
    day := dayOfYear - (153 * shifted + 2) / 5 + 1 }

/-- The days from the first of March of the year zero to a date, whose day may lie beyond the end of
its month. -/
def daysOfDate (date : Date) : Int :=
  let year := if date.month ≤ 2 then date.year - 1 else date.year
  let month := if date.month ≤ 2 then date.month + 9 else date.month - 3
  let era := year.fdiv 400
  let yearOfEra := year - era * 400
  era * 146097 + yearOfEra * 365 + yearOfEra / 4 - yearOfEra / 100 + (153 * month + 2) / 5
    + date.day - 1

/-- The days from the first of March of the year zero to the start of the year 2024. -/
def startOf2024 : Int := 739191

/-- A natural number in decimal digits, with zeros in front up to a width. -/
def digits (width : Nat) (n : Int) : String :=
  String.ofList (Text.padded 10 width n.toNat)

def dateText (date : Date) : String :=
  digits 4 date.year ++ "-" ++ digits 2 date.month ++ "-" ++ digits 2 date.day

/-- The text of a stamp. -/
def stampText (stamp : Stamp) : String :=
  let seconds := stamp.fdiv 1000
  let fraction := stamp.fmod 1000
  let ofDay := seconds.fmod 86400
  dateText (dateOfDays (startOf2024 + seconds.fdiv 86400)) ++ "T"
    ++ digits 2 (ofDay / 3600) ++ ":" ++ digits 2 (ofDay / 60 % 60) ++ ":" ++ digits 2 (ofDay % 60)
    ++ (if fraction = 0 then "" else "." ++ digits 6 (fraction * 1000)) ++ "+00:00"

/-- Why a number of seconds is no span of time. -/
inductive SpanError where
  | notANumber
  | infinite
  | tooManyDays (days : Int)
  /-- The days cannot even be counted. -/
  | countless
deriving DecidableEq, Repr

/-- The greatest number of days of a span. -/
def maxDays : Int := 999999999

def SpanError.message : SpanError → String
  | .notANumber => "cannot convert float NaN to integer"
  | .infinite => "cannot convert float infinity to integer"
  | .tooManyDays days =>
    "days=" ++ (Number.int days).text ++ "; must have magnitude <= " ++ (Number.int maxDays).text
  | .countless => "Python int too large to convert to C int"

def microsecondsOfDay : Int := 86400000000

/-- A span that keeps to the bounds. -/
def bounded (span : Int) : Except SpanError Int :=
  let days := span.fdiv microsecondsOfDay
  if days < -2147483648 || 2147483647 < days then .error .countless
  else if days < -maxDays || maxDays < days then .error (.tooManyDays days)
  else .ok span

/-- The microseconds in a double of seconds: those of its whole part exactly, those of its fraction
to the nearest one. -/
def microsecondsOfFloat (x : Float) : Except SpanError Int :=
  match Decimal.Binary.ofFloat x with
  | .nan => .error .notANumber
  | .infinite _ => .error .infinite
  | binary =>
    let whole := binary.truncate?.getD 0
    let fraction := x - ((Number.floatOfInt whole).toOption.getD 0.0)
    bounded (whole * 1000000 + (Decimal.roundWhole? (fraction * 1000000.0)).getD 0)

/-- A number of seconds in microseconds. -/
def span : Number → Except SpanError Int
  | .int n => bounded (n * 1000000)
  | .float x => microsecondsOfFloat x

/-- The days of the calendar before and from the start of the year 2024. -/
def daysBefore : Int := 738885

def daysFrom : Int := 2913174

/-- A point in time, in microseconds from the start of the year 2024, that the calendar has. -/
def isInCalendar (point : Int) : Bool :=
  -daysBefore * microsecondsOfDay ≤ point && point < daysFrom * microsecondsOfDay

example : span (.int 90) = .ok 90000000 := rfl
example : dateOfDays startOf2024 = ⟨2024, 1, 1⟩ := by decide
example : daysOfDate ⟨2024, 1, 1⟩ = startOf2024 := by decide
example : daysOfDate ⟨2024, 2, 29⟩ = startOf2024 + 59 := by decide
example : dateOfDays (startOf2024 + 59) = ⟨2024, 2, 29⟩ := by decide

end Calendar

end Orchestra
