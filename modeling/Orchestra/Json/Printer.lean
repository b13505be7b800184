import Orchestra.Value.Text

/-!
Values as JSON text in ASCII, with `", "` and `": "` between items.

Doubles keep their shortest digits, characters beyond ASCII are written as UTF-16 units, and a
part of the engine is written as the string of its text.
-/

namespace Orchestra.Json

/-- A UTF-16 unit as an escape. -/
def unitEscape (unit : Nat) : List Char :=
  '\\' :: 'u' :: Text.padded 16 4 unit

/-- One character of a string. -/
def escapeChar (c : Char) : List Char :=
  if c == '"' then ['\\', '"']
  else if c == '\\' then ['\\', '\\']
  else if c == '\n' then ['\\', 'n']
  else if c == '\r' then ['\\', 'r']
  else if c == '\t' then ['\\', 't']
  else if c == '\x0c' then ['\\', 'f']
  else if c == '\x08' then ['\\', 'b']
  else if 32 ≤ c.toNat && c.toNat < 127 then [c]
  else if c.toNat < 0x10000 then unitEscape c.toNat
  else
    let rest := c.toNat - 0x10000
    unitEscape (0xD800 + rest / 0x400) ++ unitEscape (0xDC00 + rest % 0x400)

/-- A string between quotes. -/
def string (s : String) : String :=
  String.ofList ('"' :: s.toList.flatMap escapeChar ++ ['"'])

mutual

/-- A value as JSON text. -/
def print : Value → String
  | .null => "null"
  | .bool true => "true"
  | .bool false => "false"
  | .int n => String.ofList (Text.integerText n)
  | .float x => Decimal.dataLayout.render x
  | .str s => string s
  | .list items => "[" ++ ", ".intercalate (printItems items) ++ "]"
  | .obj fields => "\x7b" ++ ", ".intercalate (printFields fields) ++ "\x7d"
  | .choice _ _ text => string text
  | .record kind fields => string (Value.record kind fields).text
  | .scope layer parent => string (Value.scope layer parent).text
  | .operation name => string (Value.operation name).text

def printItems : List Value → List String
  | [] => []
  | value :: rest => print value :: printItems rest

def printFields : List (String × Value) → List String
  | [] => []
  | (key, value) :: rest => (string key ++ ": " ++ print value) :: printFields rest

end

end Orchestra.Json
