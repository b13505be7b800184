import Orchestra.Value.Basic

/-!
The variables of a run.

Around the steps of a loop the names `item` and `index` live in a layer of their own on top of the
variables outside; every other name is read, written and removed at the root.
-/

namespace Orchestra

inductive Variables where
  | root (fields : Fields)
  /-- A loop iteration over the variables outside. -/
  | loop (layer : Fields) (outer : Variables)

namespace Variables

instance : Inhabited Variables := ⟨.root []⟩

/-- The names that belong to a loop iteration. -/
def isLocal (name : String) : Bool :=
  name == "item" || name == "index"

/-- The variables of one iteration. -/
def iterate (outer : Variables) (item : Value) (index : Nat) : Variables :=
  .loop [("item", item), ("index", .int index)] outer

def get? : Variables → String → Option Value
  | .root fields, name => fields.get? name
  | .loop layer outer, name => (layer.get? name).or (outer.get? name)

def has (bindings : Variables) (name : String) : Bool :=
  (bindings.get? name).isSome

def set : Variables → String → Value → Variables
  | .root fields, name, value => .root (fields.set name value)
  | .loop layer outer, name, value =>
    if isLocal name then .loop (layer.set name value) outer else .loop layer (outer.set name value)

/-- Removes a name; none when it is not where it would be written. -/
def erase? : Variables → String → Option Variables
  | .root fields, name => if fields.has name then some (.root (fields.erase name)) else none
  | .loop layer outer, name =>
    if isLocal name then
      if layer.has name then some (.loop (layer.erase name) outer) else none
    else (outer.erase? name).map (.loop layer)

/-- All names and values, those of the innermost layer first among equals. -/
def entries : Variables → Fields
  | .root fields => fields
  | .loop layer outer => Fields.overlay outer.entries layer

/-- Writes several names one after the other. -/
def update (bindings : Variables) (fields : Fields) : Variables :=
  fields.foldl (fun result entry => result.set entry.1 entry.2) bindings

/-- The value of a name, which is first written when it is missing. -/
def setDefault (bindings : Variables) (name : String) (value : Value) : Value × Variables :=
  match bindings.get? name with
  | some found => (found, bindings)
  | none => (value, bindings.set name value)

/-- The variables outside the innermost loop. -/
def outer : Variables → Variables
  | .root fields => .root fields
  | .loop _ outer => outer

/-- The variables outside all loops. -/
def base : Variables → Fields
  | .root fields => fields
  | .loop _ outer => outer.base

/-- The same loops around other variables. -/
def rebase (fields : Fields) : Variables → Variables
  | .root _ => .root fields
  | .loop layer outer => .loop layer (outer.rebase fields)

/-- The variables as a value. -/
def toValue : Variables → Value
  | .root fields => .obj fields
  | .loop layer outer => .scope layer outer.toValue

/-! A variable may be bound to the variables themselves, which it then shows as they are at any time.
Such a binding is a handle: it tells how many loops are around the variables that it stands for. -/

/-- The number of loops around the variables. -/
def depth : Variables → Nat
  | .root _ => 0
  | .loop _ outer => outer.depth + 1

/-- The variables with so many loops around them. -/
def within (depth : Nat) (bindings : Variables) : Variables :=
  match bindings with
  | .root fields => .root fields
  | .loop layer outer =>
    if outer.depth < depth then .loop layer outer else outer.within depth

def handle (depth : Nat) : Value :=
  .record "LoopScope" [("depth", .int depth)]

/-- The number of loops that a handle tells. -/
def ofHandle? : Value → Option Nat
  | .record "LoopScope" [("depth", .int depth)] => some depth.toNat
  | _ => none

/-- How often the variables are looked into through handles in them. -/
def maxViews : Nat := 4

/-- Fields with something in place of handles. -/
def openFields (opened : Nat → Value) (fields : Fields) : Fields :=
  fields.map fun (name, value) => (name, ((ofHandle? value).map opened).getD value)

/-- The variables as a value with something in place of handles. -/
def openHandles (opened : Nat → Value) : Variables → Value
  | .root fields => .obj (openFields opened fields)
  | .loop layer outer => .scope (openFields opened layer) (outer.openHandles opened)

/-- The variables as a value, with what handles stand for in their place, up to so many times. -/
def viewUpTo (bindings : Variables) : Nat → Value
  | 0 => bindings.openHandles fun _ => .null
  | count + 1 => bindings.openHandles fun depth => viewUpTo (bindings.within depth) count

/-- Some variable is bound to a handle. -/
def hasHandle : Variables → Bool
  | .root fields => fields.any fun entry => (ofHandle? entry.2).isSome
  | .loop layer outer => layer.any (fun entry => (ofHandle? entry.2).isSome) || outer.hasHandle

/-- The variables as paths see them. -/
def view (bindings : Variables) : Value :=
  if bindings.hasHandle then bindings.viewUpTo maxViews else bindings.toValue

/-- The handle that names lead to, each in the variables that the one before stands for. -/
def handleAt? (bindings : Variables) : List String → Option Value
  | [] => some (handle bindings.depth)
  | name :: rest =>
    match (bindings.get? name).bind ofHandle? with
    | some depth => (bindings.within depth).handleAt? rest
    | none => none

end Variables

end Orchestra
