import Orchestra.Value.Basic
import Orchestra.Text.Integer

/-!
Lookup of a value by a dotted path such as `variables.items.0.id`.

The path loses the white space at its ends and is cut at its dots. Each part is a key of an
object, a position of a list, written with at most as many digits as an integer is read from, or a
named attribute; the lookup fails at the first part that is missing, and beyond null everything is
missing.
-/

namespace Orchestra

namespace Path

/-- The parts of a text between dots; there is always at least one. -/
def splitDots : List Char → List (List Char)
  | [] => [[]]
  | c :: rest =>
    match splitDots rest with
    | [] => [[c]]
    | part :: parts => if c == '.' then [] :: part :: parts else (c :: part) :: parts

/-- The parts of a path. -/
def parts (path : String) : List String :=
  (splitDots (Text.trimChars path.toList)).map String.ofList

/-- The item at a position; a negative position counts from the end. -/
def item? (items : List Value) (position : Int) : Option Value :=
  if 0 ≤ position then items[position.toNat]?
  else if -(items.length : Int) ≤ position then items[(items.length + position).toNat]?
  else none

/-- The operations that every string names. -/
def stringOperations : List String :=
  ["capitalize", "casefold", "center", "count", "encode", "endswith", "expandtabs", "find",
    "format", "format_map", "index", "isalnum", "isalpha", "isascii", "isdecimal", "isdigit",
    "isidentifier", "islower", "isnumeric", "isprintable", "isspace", "istitle", "isupper",
    "join", "ljust", "lower", "lstrip", "maketrans", "partition", "removeprefix",
    "removesuffix", "replace", "rfind", "rindex", "rjust", "rpartition", "rsplit", "rstrip",
    "split", "splitlines", "startswith", "strip", "swapcase", "title", "translate", "upper",
    "zfill"]

/-- The operations that every integer names. -/
def integerOperations : List String :=
  ["as_integer_ratio", "bit_count", "bit_length", "conjugate", "from_bytes", "to_bytes"]

/-- The operations that every double names. -/
def floatOperations : List String :=
  ["as_integer_ratio", "conjugate", "fromhex", "hex", "is_integer"]

/-- The kinds of trigger, which each of them names. -/
def triggerKinds : List (String × String) :=
  [("ENTITY", "entity"), ("WEBHOOK", "webhook"), ("SCHEDULE", "schedule"), ("MANUAL", "manual")]

def operation? (names : List String) (part : String) : Option Value :=
  if names.contains part then some (.operation part) else none

/-- The parts of a whole number. -/
def integerAttribute? (n : Int) (part : String) : Option Value :=
  if part == "real" || part == "numerator" then some (.int n)
  else if part == "imag" then some (.int 0)
  else if part == "denominator" then some (.int 1)
  else operation? integerOperations part

/-- An attribute of a value that is neither null, a list nor an object. -/
def attribute? (value : Value) (part : String) : Option Value :=
  if part.toList.head? == some '_' then none
  else
    match value with
    | .record _ fields => fields.lookup part
    | .bool b => integerAttribute? (if b then 1 else 0) part
    | .int n => integerAttribute? n part
    | .float x =>
      if part == "real" then some (.float x)
      else if part == "imag" then some (.float 0.0)
      else operation? floatOperations part
    | .str _ => operation? stringOperations part
    | .choice kind name text =>
      if part == "name" then some (.str name)
      else if part == "value" then some (.str text)
      else
        match triggerKinds.lookup part with
        | some other => some (.choice kind part other)
        | none => operation? stringOperations part
    | _ => none

/-- One step of a lookup. -/
def step? (value : Value) (part : String) : Option Value :=
  match value with
  | .null => none
  | .obj fields => fields.lookup part
  | .scope layer parent => (Value.scope layer parent).key? part
  | .list items => (Text.readBounded part.toList).toOption.bind (item? items)
  | _ => attribute? value part

/-- A lookup along the parts of a path. -/
def walk (value : Value) : List String → Option Value
  | [] => some value
  | part :: rest => (step? value part).bind fun next => walk next rest

end Path

/-- What a dotted path leads to, if every part of it is there. -/
def Value.lookup? (value : Value) (path : String) : Option Value :=
  Path.walk value (Path.parts path)

/-- What a dotted path leads to, with a default for a missing one. -/
def Value.lookupD (value : Value) (path : String) (default : Value) : Value :=
  (value.lookup? path).getD default

end Orchestra
