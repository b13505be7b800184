import Orchestra.Value.Basic
import Orchestra.Text.Visible

/-!
Values as text in the literal notation: strings in quotes, `None`, `True` and `False`, lists in
brackets, objects in braces and records with their field names.
-/

namespace Orchestra.Value

/-- One character of a quoted string. -/
def quotedChar (quote : Char) (c : Char) : List Char :=
  if c == quote || c == '\\' then ['\\', c]
  else if c == '\n' then ['\\', 'n']
  else if c == '\r' then ['\\', 'r']
  else if c == '\t' then ['\\', 't']
  else if Text.isVisible c then [c]
  else if c.toNat < 0x100 then '\\' :: 'x' :: Text.padded 16 2 c.toNat
  else if c.toNat < 0x10000 then '\\' :: 'u' :: Text.padded 16 4 c.toNat
  else '\\' :: 'U' :: Text.padded 16 8 c.toNat

/-- A string in single quotes, or in double quotes when it holds single ones only. -/
def quoted (s : String) : String :=
  let cs := s.toList
  let quote := if cs.contains '\'' && !cs.contains '"' then '"' else '\''
  String.ofList (quote :: cs.flatMap (quotedChar quote) ++ [quote])

mutual

/-- The literal notation of a value. -/
def literal : Value → String
  | .null => "None"
  | .bool true => "True"
  | .bool false => "False"
  | .int n => String.ofList (Text.integerText n)
  | .float x => Decimal.plainLayout.render x
  | .str s => quoted s
  | .list items => "[" ++ ", ".intercalate (literals items) ++ "]"
  | .obj fields => "\x7b" ++ ", ".intercalate (entryLiterals fields) ++ "\x7d"
  | .choice kind name text => "<" ++ kind ++ "." ++ name ++ ": " ++ quoted text ++ ">"
  | .record kind fields => kind ++ "(" ++ ", ".intercalate (fieldLiterals fields) ++ ")"
  | .scope layer parent =>
    "LoopScope(\x7b" ++ ", ".intercalate (entryLiterals layer) ++ "\x7d, " ++ parent.literal ++ ")"
  | .operation name => "<built-in method " ++ name ++ ">"

def literals : List Value → List String
  | [] => []
  | value :: rest => value.literal :: literals rest

/-- Entries of an object, the keys in quotes. -/
def entryLiterals : List (String × Value) → List String
  | [] => []
  | (key, value) :: rest => (quoted key ++ ": " ++ value.literal) :: entryLiterals rest

/-- Fields of a record, the names bare. -/
def fieldLiterals : List (String × Value) → List String
  | [] => []
  | (key, value) :: rest => (key ++ "=" ++ value.literal) :: fieldLiterals rest

end

/-- The text of a value: a string is itself, a choice its name, all else its literal notation. -/
def text : Value → String
  | .str s => s
  | .choice kind name _ => kind ++ "." ++ name
  | value => value.literal

end Orchestra.Value
