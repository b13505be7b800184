import Orchestra.Value.Basic
import Orchestra.Text.Integer

/-!
Reading of JSON text.

Keys keep their order, a repeated key keeps its first place and its last value, integers are
unbounded, and `NaN`, `Infinity` and `-Infinity` are accepted as numbers. A text that is not JSON is
refused with the first place at which it goes wrong.
-/

namespace Orchestra.Json

/-- What is wrong with a text that is not JSON. -/
inductive Complaint where
  | value
  | key
  | colon
  | comma
  | openString
  | control
  | escape
  | unit
  | extra
  /-- An integer is written with too many digits. -/
  | digits (count : Nat)
  /-- A list or an object is nested too deep. -/
  | depth (container : String)
deriving DecidableEq, Repr

namespace Complaint

def text : Complaint → String
  | .value => "Expecting value"
  | .key => "Expecting property name enclosed in double quotes"
  | .colon => "Expecting ':' delimiter"
  | .comma => "Expecting ',' delimiter"
  | .openString => "Unterminated string starting at"
  | .control => "Invalid control character at"
  | .escape => "Invalid \\escape"
  | .unit => "Invalid \\uXXXX escape"
  | .extra => "Extra data"
  | .digits count =>
    "Exceeds the limit (4300 digits) for integer string conversion: value has "
      ++ String.ofList (Text.naturalText count)
      ++ " digits; use sys.set_int_max_str_digits() to increase the limit"
  | .depth container =>
    "maximum recursion depth exceeded while decoding a JSON " ++ container
      ++ " from a unicode string"

/-- The complaint is about the text as a whole and names no place. -/
def isPlaceless : Complaint → Bool
  | .digits _ | .depth _ => true
  | _ => false

end Complaint

/-- A complaint, and the text from the place that it is about. -/
structure Misread where
  complaint : Complaint
  rest : List Char
deriving DecidableEq, Repr

/-- A part that was read, and the text after it. -/
abbrev Reading (α : Type) := Except Misread (α × List Char)

def complain {α : Type} (complaint : Complaint) (rest : List Char) : Except Misread α :=
  .error ⟨complaint, rest⟩

/-- The blanks that may stand between two tokens. -/
def isSpace (c : Char) : Bool :=
  c == ' ' || c == '\t' || c == '\n' || c == '\r'

def skipSpace (cs : List Char) : List Char :=
  cs.dropWhile isSpace

/-- The rest of a text after an expected beginning. -/
def afterWord? : List Char → List Char → Option (List Char)
  | [], cs => some cs
  | w :: ws, c :: cs => if w == c then afterWord? ws cs else none
  | _ :: _, [] => none

def hexValue? (c : Char) : Option Nat :=
  if c.isDigit then some (c.toNat - 48)
  else if 'a' ≤ c && c ≤ 'f' then some (c.toNat - 87)
  else if 'A' ≤ c && c ≤ 'F' then some (c.toNat - 55)
  else none

/-- Four hexadecimal digits. -/
def unit? : List Char → Option (Nat × List Char)
  | a :: b :: c :: d :: rest => do
    let a ← hexValue? a
    let b ← hexValue? b
    let c ← hexValue? c
    let d ← hexValue? d
    return (4096 * a + 256 * b + 16 * c + d, rest)
  | _ => none

def isHighHalf (unit : Nat) : Bool :=
  0xD800 ≤ unit && unit < 0xDC00

def isLowHalf (unit : Nat) : Bool :=
  0xDC00 ≤ unit && unit < 0xE000

/-- The character of a UTF-16 unit; a half of a pair on its own is the replacement character. -/
def unitChar (unit : Nat) : Char :=
  if isHighHalf unit || isLowHalf unit then '\ufffd' else Char.ofNat unit

/-- Four hexadecimal digits that do not end the text; `mark` is the text from the letter before them
on. -/
def unitAfter (mark : List Char) : List Char → Reading Nat
  | cs =>
    match unit? cs with
    | some (value, c :: rest) => .ok (value, c :: rest)
    | _ => complain .unit mark

/-- What an escape stands for; `escaped` is the text from its backslash on. -/
def readEscape (escaped : List Char) : List Char → Except Misread (Char × List Char)
  | '"' :: rest => .ok ('"', rest)
  | '\\' :: rest => .ok ('\\', rest)
  | '/' :: rest => .ok ('/', rest)
  | 'b' :: rest => .ok ('\x08', rest)
  | 'f' :: rest => .ok ('\x0c', rest)
  | 'n' :: rest => .ok ('\n', rest)
  | 'r' :: rest => .ok ('\r', rest)
  | 't' :: rest => .ok ('\t', rest)
  | 'u' :: rest => do
    let (high, tail) ← unitAfter ('u' :: rest) rest
    if isHighHalf high then
      match tail with
      | '\\' :: 'u' :: more =>
        if more.length < 5 then return (unitChar high, tail)
        else
          let (low, final) ← unitAfter ('u' :: more) more
          if isLowHalf low then
            return (Char.ofNat (0x10000 + 0x400 * (high - 0xD800) + (low - 0xDC00)), final)
          else return (unitChar high, tail)
      | _ => return (unitChar high, tail)
    else return (unitChar high, tail)
  | _ => complain .escape escaped

/-- The characters of a string up to its closing quote, read in reverse onto `done`; `start` is the
text from the opening quote on. -/
def readString (start : List Char) : Nat → List Char → List Char → Reading String
  | 0, _, _ | _ + 1, _, [] => complain .openString start
  | fuel + 1, done, c :: rest =>
    if c == '"' then .ok (String.ofList done.reverse, rest)
    else if c == '\\' then
      if rest.isEmpty then complain .openString start
      else
        match readEscape (c :: rest) rest with
        | .error misread => .error misread
        | .ok (found, tail) => readString start fuel (found :: done) tail
    else if c.toNat < 32 then complain .control (c :: rest)
    else readString start fuel (c :: done) rest

/-- The greatest number of digits of an integer. -/
def digitLimit : Nat := 4300

def digitsValue (digits : List Char) : Nat :=
  digits.foldl (fun value digit => 10 * value + (digit.toNat - 48)) 0

/-- The fraction part of a number: a point and at least one digit. -/
def fraction : List Char → List Char × List Char
  | '.' :: rest =>
    match rest.takeWhile Char.isDigit with
    | [] => ([], '.' :: rest)
    | digits => (digits, rest.dropWhile Char.isDigit)
  | cs => ([], cs)

/-- The exponent part of a number: a mark, an optional sign and at least one digit. -/
def exponent? : List Char → Option (Int × List Char)
  | mark :: rest =>
    if mark == 'e' || mark == 'E' then
      let (negative, digits) :=
        match rest with
        | '+' :: more => (false, more)
        | '-' :: more => (true, more)
        | more => (false, more)
      match digits.takeWhile Char.isDigit with
      | [] => none
      | found =>
        let size : Int := (digitsValue found : Nat)
        some (if negative then -size else size, digits.dropWhile Char.isDigit)
    else none
  | [] => none

/-- The double next to `digits · 10^exponent`. -/
def decimalFloat (negative : Bool) (digits : Nat) (exponent : Int) : Float :=
  let size : Float := OfScientific.ofScientific digits (exponent < 0) exponent.natAbs
  if negative then -size else size

/-- A number after its sign; `start` is the text from the sign on. -/
def readNumber (start : List Char) (negative : Bool) (cs : List Char) : Reading Value :=
  let whole :=
    match cs with
    | '0' :: _ => ['0']
    | cs => cs.takeWhile Char.isDigit
  if whole.isEmpty then complain .value start
  else
    let (places, afterFraction) := fraction (cs.drop whole.length)
    match places, exponent? afterFraction with
    | [], none =>
      if digitLimit < whole.length then complain (.digits whole.length) start
      else
        let size : Int := (digitsValue whole : Nat)
        .ok (.int (if negative then -size else size), afterFraction)
    | _, power =>
      let (shift, final) := power.getD (0, afterFraction)
      let digits := digitsValue (whole ++ places)
      .ok (.float (decimalFloat negative digits (shift - places.length)), final)

/-- The double that is not a number. -/
def notANumber : Float := 0.0 / 0.0

/-- The greater infinity. -/
def infinity : Float := 1.0 / 0.0

/-- The words that are values. -/
def words : List (List Char × Value) :=
  [("null".toList, .null), ("true".toList, .bool true), ("false".toList, .bool false),
    ("NaN".toList, .float notANumber), ("Infinity".toList, .float infinity),
    ("-Infinity".toList, .float (-infinity))]

/-- A word at the start of a text. -/
def readWord? (cs : List Char) : Option (Value × List Char) :=
  words.findSome? fun (word, value) => (afterWord? word cs).map fun rest => (value, rest)

mutual

/-- A value at the start of the text, with what follows it; `depth` is how many more levels of lists
and objects may be nested. -/
def readValue : Nat → (depth : Nat) → List Char → Reading Value
  | 0, _, cs => complain .value cs
  | fuel + 1, depth, cs =>
    match cs, depth with
    | '"' :: rest, _ =>
      match readString cs (rest.length + 1) [] rest with
      | .error misread => .error misread
      | .ok (s, tail) => .ok (.str s, tail)
    | '\x7b' :: _, 0 => complain (.depth "object") cs
    | '\x7b' :: rest, depth + 1 =>
      match skipSpace rest with
      | '\x7d' :: tail => .ok (.obj [], tail)
      | tail => readEntries fuel depth [] tail
    | '[' :: _, 0 => complain (.depth "array") cs
    | '[' :: rest, depth + 1 =>
      match skipSpace rest with
      | ']' :: tail => .ok (.list [], tail)
      | tail => readItems fuel depth [] tail
    | _, _ =>
      match readWord? cs with
      | some found => .ok found
      | none =>
        match cs with
        | '-' :: rest => readNumber cs true rest
        | _ => readNumber cs false cs

/-- The items of a list up to its closing bracket. -/
def readItems : Nat → (depth : Nat) → List Value → List Char → Reading Value
  | 0, _, _, cs => complain .value cs
  | fuel + 1, depth, done, cs =>
    match readValue fuel depth cs with
    | .error misread => .error misread
    | .ok (item, rest) =>
      match skipSpace rest with
      | ',' :: tail => readItems fuel depth (item :: done) (skipSpace tail)
      | ']' :: tail => .ok (.list (item :: done).reverse, tail)
      | tail => complain .comma tail

/-- The entries of an object up to its closing brace. -/
def readEntries : Nat → (depth : Nat) → Fields → List Char → Reading Value
  | 0, _, _, cs => complain .value cs
  | fuel + 1, depth, done, cs =>
    match cs with
    | '"' :: start =>
      match readString cs (start.length + 1) [] start with
      | .error misread => .error misread
      | .ok (key, rest) =>
        match skipSpace rest with
        | ':' :: tail =>
          match readValue fuel depth (skipSpace tail) with
          | .error misread => .error misread
          | .ok (entry, after) =>
            let fields := done.set key entry
            match skipSpace after with
            | ',' :: more => readEntries fuel depth fields (skipSpace more)
            | '\x7d' :: more => .ok (.obj fields, more)
            | more => complain .comma more
        | more => complain .colon more
    | _ => complain .key cs

end

/-- Reads a whole text as one value; a list or an object takes two calls for its first character. -/
def readChars (depth : Nat) (cs : List Char) : Except Misread Value :=
  match readValue (2 * cs.length + 1) depth (skipSpace cs) with
  | .error misread => .error misread
  | .ok (value, rest) =>
    match skipSpace rest with
    | [] => .ok value
    | more => complain .extra more

/-- The value that a text holds, however deep it is nested. -/
def read (s : String) : Option Value :=
  (readChars (s.length + 1) s.toList).toOption

/-- How deep lists and objects may be nested in a text from outside. -/
def maxDepth : Nat := 984

/-- Why a text is not taken as a value. -/
structure Refusal where
  message : String
  /-- The text is nested too deep. -/
  tooDeep : Bool := false
deriving DecidableEq, Repr

/-- The refusal of a text: what is wrong, and in which line, in which column and after how many
characters. -/
def Misread.refusal (misread : Misread) (whole : List Char) : Refusal :=
  let complaint := misread.complaint
  if complaint.isPlaceless then { message := complaint.text, tooDeep := complaint matches .depth _ }
  else
    let before := whole.take (whole.length - misread.rest.length)
    let number (n : Nat) := String.ofList (Text.naturalText n)
    { message := complaint.text ++ ": line " ++ number (before.count '\n' + 1)
        ++ " column " ++ number ((before.reverse.takeWhile (· != '\n')).length + 1)
        ++ " (char " ++ number before.length ++ ")" }

/-- The value that a text from outside holds, or why it holds none. -/
def parse (s : String) : Except Refusal Value :=
  (readChars maxDepth s.toList).mapError fun misread => misread.refusal s.toList

end Orchestra.Json
