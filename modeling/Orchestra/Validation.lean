import Orchestra.Value.Basic
import Orchestra.Json.Reader

/-!
Checked reading of data into typed fields.

A reader gives a value or a non-empty list of faults in the order of the fields. Readings are
combined so that the faults of all fields are reported together.
-/

namespace Orchestra

/-- One step from a document to the place of a fault. -/
inductive Place where
  | key (name : String)
  | index (position : Nat)
deriving DecidableEq, Repr

/-- What is wrong with a value. -/
inductive FaultKind where
  | missing
  | stringType
  | intType
  | intParsing
  | intParsingSize
  | intFromFloat
  | finiteNumber
  | floatType
  | floatParsing
  | boolType
  | boolParsing
  | listType
  | dictType
  | modelType
  | modelAttributesType
  | literalError
  | greaterThanEqual
  | unionTagNotFound
  | unionTagInvalid
  | recursionDepthExceeded
  | valueError (message : String)
deriving DecidableEq, Repr

def FaultKind.name : FaultKind → String
  | .missing => "missing"
  | .stringType => "string_type"
  | .intType => "int_type"
  | .intParsing => "int_parsing"
  | .intParsingSize => "int_parsing_size"
  | .intFromFloat => "int_from_float"
  | .finiteNumber => "finite_number"
  | .floatType => "float_type"
  | .floatParsing => "float_parsing"
  | .boolType => "bool_type"
  | .boolParsing => "bool_parsing"
  | .listType => "list_type"
  | .dictType => "dict_type"
  | .modelType => "model_type"
  | .modelAttributesType => "model_attributes_type"
  | .literalError => "literal_error"
  | .greaterThanEqual => "greater_than_equal"
  | .unionTagNotFound => "union_tag_not_found"
  | .unionTagInvalid => "union_tag_invalid"
  | .recursionDepthExceeded => "recursion_depth_exceeded"
  | .valueError _ => "value_error"

structure Fault where
  kind : FaultKind
  path : List Place
deriving DecidableEq, Repr

/-- A reading: the value, or everything that is wrong. -/
inductive Checked (α : Type) where
  | valid (value : α)
  | invalid (first : Fault) (rest : List Fault)

namespace Checked

def fault {α : Type} (kind : FaultKind) : Checked α :=
  .invalid ⟨kind, []⟩ []

def faults {α : Type} : Checked α → List Fault
  | .valid _ => []
  | .invalid first rest => first :: rest

def map {α β : Type} (f : α → β) : Checked α → Checked β
  | .valid value => .valid (f value)
  | .invalid first rest => .invalid first rest

/-- Applies a reading of a function to a reading of its argument; faults add up. -/
def apply {α β : Type} (f : Checked (α → β)) (x : Checked α) : Checked β :=
  match f, x with
  | .valid g, .valid value => .valid (g value)
  | .valid _, .invalid first rest => .invalid first rest
  | .invalid first rest, other => .invalid first (rest ++ other.faults)

instance : Functor Checked where
  map := map

instance : Seq Checked where
  seq f x := f.apply (x ())

/-- The same reading seen from one step further out. -/
def within {α : Type} (place : Place) : Checked α → Checked α
  | .valid value => .valid value
  | .invalid first rest =>
    .invalid { first with path := place :: first.path }
      (rest.map fun fault => { fault with path := place :: fault.path })

def toOption {α : Type} : Checked α → Option α
  | .valid value => some value
  | .invalid .. => none

end Checked

namespace Read

/-- A reader of a single value. -/
abbrev Reader (α : Type) := Value → Checked α

/-- Any value, as it is. -/
def any : Reader Value := .valid

def string : Reader String
  | .str s => .valid s
  | _ => Checked.fault .stringType

/-- Null is nothing; all else is read. -/
def nullable {α : Type} (reader : Reader α) : Reader (Option α)
  | .null => .valid none
  | value => (reader value).map some

/-- A text without the white space at its ends, the file separators not counted as such. -/
def stripped (s : String) : List Char :=
  ((s.toList.dropWhile Text.isIntegerBlank).reverse.dropWhile Text.isIntegerBlank).reverse

/-- A text without the zeros at its start, and without underscores between and after them: it starts with
a minus sign, with another digit, or with the zero before a point. A text of nothing else keeps its last
character. -/
def afterZeros (last : Char) : List Char → Option (List Char)
  | [] => some [last]
  | '.' :: rest => some (last :: '.' :: rest)
  | c :: rest =>
    if c == '0' || c == '_' then afterZeros c rest
    else if c == '-' || c.isDigit then some (c :: rest)
    else none

/-- A text of digits and signs without the zeros at its start. -/
def withoutZeros : List Char → Option (List Char)
  | '0' :: rest => afterZeros '0' rest
  | c :: rest => if c == '-' || c.isDigit then some (c :: rest) else none
  | [] => none

/-- An integer in text without the point and the zeros that may follow it; nothing else may follow. -/
def withoutPlaces (cs : List Char) : Option (List Char) :=
  match cs.dropWhile (· != '.') with
  | [] => some cs
  | point => if point.length != 1 && (point.drop 1).all (· == '0') then
      some (cs.takeWhile (· != '.'))
    else none

/-- Single underscores inside a text are left out. -/
def withoutUnderscores (cs : List Char) : List Char :=
  let doubled := (cs.zip (cs.drop 1)).contains ('_', '_')
  if cs.head? == some '_' || cs.getLast? == some '_' || doubled then cs
  else cs.filter (· != '_')

/-- An integer in text in its plain form: without white space around it, a plus sign, zeros in front,
a point with zeros, and underscores. -/
def plainInteger (s : String) : Option (List Char) := do
  let unsigned ←
    match stripped s with
    | '+' :: '-' :: _ => none
    | '+' :: rest => some rest
    | body => some body
  return withoutUnderscores (← withoutPlaces (← withoutZeros unsigned))

/-- The natural number that digits without zeros in front stand for; `sign` counts the characters of
the sign before them. -/
def naturalText (sign : Nat) (digits : List Char) : Checked Nat :=
  match digits with
  | ['0'] => .valid 0
  | '0' :: _ | [] => Checked.fault .intParsing
  | digits =>
    if Text.maxDigits < sign + (digits.takeWhile Char.isDigit).length then
      Checked.fault .intParsingSize
    else if digits.all Char.isDigit then .valid (Json.digitsValue digits)
    else Checked.fault .intParsing

/-- The integer that a text stands for. -/
def integerText (s : String) : Checked Int :=
  match plainInteger s with
  | none => Checked.fault .intParsing
  | some ('-' :: digits) => (naturalText 1 digits).map fun n => -Int.ofNat n
  | some digits => (naturalText 0 digits).map Int.ofNat

/-- Integers; booleans, whole doubles and integers in text are converted. -/
def integer : Reader Int
  | .bool b => .valid (if b then 1 else 0)
  | .int n => .valid n
  | .float x =>
    match Decimal.Binary.ofFloat x with
    | .finite negative mantissa exponent =>
      let binary := Decimal.Binary.finite negative mantissa exponent
      let whole := binary.truncate?.getD 0
      if !binary.isWhole then Checked.fault .intFromFloat
      else if whole.natAbs < Nat.pow 2 63 then .valid whole
      else Checked.fault .intParsingSize
    | _ => Checked.fault .finiteNumber
  | .str s => integerText s
  | _ => Checked.fault .intType

/-- Integers from a least one upwards. -/
def integerFrom (least : Int) (value : Value) : Checked Int :=
  match integer value with
  | .valid n => if least ≤ n then .valid n else Checked.fault .greaterThanEqual
  | faulty => faulty

/-- The words that stand for true and for false, in any case of letters. -/
def booleanWord? (s : String) : Option Bool :=
  let word := String.ofList (s.toList.map Char.toLower)
  if ["1", "t", "y", "yes", "on", "true"].contains word then some true
  else if ["0", "f", "n", "no", "off", "false"].contains word then some false
  else none

/-- Zero as false and one as true. A number that no machine integer holds counts as another kind of
value. -/
def booleanNumber (n : Int) : Checked Bool :=
  if n == 0 then .valid false
  else if n == 1 then .valid true
  else if -(Nat.pow 2 63) ≤ n && n < Nat.pow 2 63 then Checked.fault .boolParsing
  else Checked.fault .boolType

/-- Booleans; zero, one and the words of truth are converted. -/
def boolean : Reader Bool
  | .bool b => .valid b
  | .int n => booleanNumber n
  | .float x =>
    match Decimal.Binary.ofFloat x with
    | .finite negative mantissa exponent =>
      let binary := Decimal.Binary.finite negative mantissa exponent
      let whole := binary.truncate?.getD 0
      if binary.isWhole && whole.natAbs < Nat.pow 2 63 then booleanNumber whole
      else Checked.fault .boolType
    | _ => Checked.fault .boolType
  | .str s =>
    match booleanWord? s with
    | some b => .valid b
    | none => Checked.fault .boolParsing
  | _ => Checked.fault .boolType

/-- A double in text: a number, or a name of an infinity or of not-a-number. -/
def plainFloat? (cs : List Char) : Option Float :=
  let (negative, body) :=
    match cs with
    | '-' :: rest => (true, rest)
    | '+' :: rest => (false, rest)
    | rest => (false, rest)
  let word := String.ofList (body.map Char.toLower)
  if word == "inf" || word == "infinity" then
    some (if negative then -Json.infinity else Json.infinity)
  else if word == "nan" then some Json.notANumber
  else
    let whole := body.takeWhile Char.isDigit
    let (places, tail) :=
      match body.dropWhile Char.isDigit with
      | '.' :: more => (more.takeWhile Char.isDigit, more.dropWhile Char.isDigit)
      | more => ([], more)
    let digits := Json.digitsValue (whole ++ places)
    if whole.isEmpty && places.isEmpty then none
    else if tail.isEmpty then some (Json.decimalFloat negative digits (-(places.length : Int)))
    else
      match Json.exponent? tail with
      | some (shift, []) => some (Json.decimalFloat negative digits (shift - places.length))
      | _ => none

/-- A double in text with white space around it, or one with underscores. -/
def floatText? (s : String) : Option Float :=
  (plainFloat? (stripped s)).or (plainFloat? (withoutUnderscores s.toList))

/-- Doubles; booleans, integers and numbers in text are converted. -/
def float : Reader Float
  | .bool b => .valid (if b then 1.0 else 0.0)
  | .float x => .valid x
  | .int n =>
    match Number.floatOfInt n with
    | .ok x => .valid x
    | .error _ => Checked.fault .floatType
  | .str s =>
    match floatText? s with
    | some x => .valid x
    | none => Checked.fault .floatParsing
  | _ => Checked.fault .floatType

def fields : Reader Fields
  | .obj entries => .valid entries
  | _ => Checked.fault .dictType

/-- The entries of an object, each read by itself. -/
def entriesOf {α : Type} (reader : Reader α) : Fields → Checked (List (String × α))
  | [] => .valid []
  | (key, value) :: rest =>
    (fun item items => (key, item) :: items) <$> (reader value).within (.key key)
      <*> entriesOf reader rest

/-- An object whose values are all read alike. -/
def mapping {α : Type} (reader : Reader α) : Reader (List (String × α))
  | .obj entries => entriesOf reader entries
  | _ => Checked.fault .dictType

/-- The items of a list, each read by itself, counted from `position`. -/
def itemsOf {α : Type} (reader : Reader α) (position : Nat) : List Value → Checked (List α)
  | [] => .valid []
  | value :: rest =>
    List.cons <$> (reader value).within (.index position) <*> itemsOf reader (position + 1) rest

def list {α : Type} (reader : Reader α) : Reader (List α)
  | .list items => itemsOf reader 0 items
  | _ => Checked.fault .listType

/-- One of a fixed set of strings. -/
def literal (allowed : List String) : Reader String
  | .str s => if allowed.contains s then .valid s else Checked.fault .literalError
  | _ => Checked.fault .literalError

/-- A field that may be absent; the first of its names that occurs is read. -/
def fieldD {α : Type} (entries : Fields) (name : String) (others : List String) (default : α)
    (reader : Reader α) : Checked α :=
  match (name :: others).find? entries.has with
  | some used => (reader (entries.valueD used .null)).within (.key used)
  | none => .valid default

/-- A field that must be there. -/
def field {α : Type} (entries : Fields) (name : String) (reader : Reader α) : Checked α :=
  match entries.get? name with
  | some value => (reader value).within (.key name)
  | none => (Checked.fault .missing).within (.key name)

/-- An optional field, nothing when absent or null. -/
def optional {α : Type} (entries : Fields) (name : String) (reader : Reader α) :
    Checked (Option α) :=
  fieldD entries name [] none (nullable reader)

end Read

end Orchestra
