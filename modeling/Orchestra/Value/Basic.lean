import Orchestra.Number

/-!
The values that workflows compute with.

A value is data (null, booleans, numbers, strings, lists and objects with ordered keys) or a part
of the engine that a path can reach: a record such as the trigger of a run, a member of an
enumeration, the variables of a loop iteration, or a named operation of a string or number.
-/

namespace Orchestra

inductive Value where
  | null
  | bool (b : Bool)
  | int (n : Int)
  | float (x : Float)
  | str (s : String)
  | list (items : List Value)
  | obj (fields : List (String × Value))
  /-- A member of an enumeration; it compares like its text. -/
  | choice (kind name text : String)
  /-- A record of the engine; its fields are reached by name. -/
  | record (kind : String) (fields : List (String × Value))
  /-- The variables of a loop iteration: a layer over the variables around the loop. -/
  | scope (layer : List (String × Value)) (parent : Value)
  /-- A named operation of a string or number. -/
  | operation (name : String)

instance : Inhabited Value := ⟨.null⟩

/-- Named values in order; a name occurs once. -/
abbrev Fields := List (String × Value)

namespace Fields

/-- The names in order. -/
def keys (fields : Fields) : List String :=
  fields.map Prod.fst

def get? (fields : Fields) (key : String) : Option Value :=
  fields.lookup key

def has (fields : Fields) (key : String) : Bool :=
  (fields.get? key).isSome

/-- The value of a name, or a default. -/
def valueD (fields : Fields) (key : String) (default : Value) : Value :=
  (fields.get? key).getD default

/-- The fields of an object that is the value of a name; there are none where it is no object. -/
def inner (fields : Fields) (key : String) : Fields :=
  match fields.get? key with
  | some (.obj inner) => inner
  | _ => []

/-- Replaces the value of a name in its place, or appends the name. -/
def set : Fields → String → Value → Fields
  | [], key, value => [(key, value)]
  | (name, old) :: rest, key, value =>
    if name == key then (name, value) :: rest else (name, old) :: set rest key value

/-- Removes a name. -/
def erase (fields : Fields) (key : String) : Fields :=
  fields.filter fun entry => entry.1 != key

/-- Writes the second fields over the first, one after the other. -/
def overlay (fields more : Fields) : Fields :=
  more.foldl (fun result entry => result.set entry.1 entry.2) fields

end Fields

namespace Value

/-- The number that a value is; booleans count as zero and one. -/
def number? : Value → Option Number
  | .bool b => some (.int (if b then 1 else 0))
  | .int n => some (.int n)
  | .float x => some (.float x)
  | _ => none

/-- The characters of a value that compares like a string. -/
def text? : Value → Option String
  | .str s => some s
  | .choice _ _ text => some text
  | _ => none

def ofNumber : Number → Value
  | .int n => .int n
  | .float x => .float x

/-- The entries of an object, or of a loop iteration with its own layer on top. -/
def entries? : Value → Option Fields
  | .obj fields => some fields
  | .scope layer parent => (entries? parent).map fun fields => Fields.overlay fields layer
  | _ => none

/-- What a key of an object or loop iteration is bound to. -/
def key? : Value → String → Option Value
  | .obj fields, key => fields.lookup key
  | .scope layer parent, key => (layer.lookup key).or (parent.key? key)
  | _, _ => none

/-- Null, false, zero and everything empty count as false. -/
def truthy : Value → Bool
  | .null => false
  | .bool b => b
  | .int n => n != 0
  | .float x => x != 0.0
  | .str s => s != ""
  | .list items => !items.isEmpty
  | .obj fields => !fields.isEmpty
  | .scope layer parent => !layer.isEmpty || parent.truthy
  | .choice _ _ text => text != ""
  | .record .. => true
  | .operation _ => true

/-- The name of the kind of a value. -/
def kindName : Value → String
  | .null => "NoneType"
  | .bool _ => "bool"
  | .int _ => "int"
  | .float _ => "float"
  | .str _ => "str"
  | .list _ => "list"
  | .obj _ => "dict"
  | .choice kind .. => kind
  | .record kind _ => kind
  | .scope .. => "LoopScope"
  | .operation _ => "builtin_function_or_method"

/-- The string, if the value is one. -/
def str? : Value → Option String
  | .str s => some s
  | _ => none

def ofOption : Option Value → Value
  | some value => value
  | none => .null

def ofString? : Option String → Value
  | some s => .str s
  | none => .null

mutual

/-- The value is data: it holds no part of the engine. -/
def isData : Value → Bool
  | .list items => areData items
  | .obj fields => fieldsAreData fields
  | .null | .bool _ | .int _ | .float _ | .str _ => true
  | .choice .. | .record .. | .scope .. | .operation _ => false

def areData : List Value → Bool
  | [] => true
  | value :: rest => value.isData && areData rest

def fieldsAreData : List (String × Value) → Bool
  | [] => true
  | (_, value) :: rest => value.isData && fieldsAreData rest

end

end Value

end Orchestra
