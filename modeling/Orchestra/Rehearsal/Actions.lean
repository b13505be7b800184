import Orchestra.Execution.Context
import Orchestra.Failure
import Orchestra.Template

/-!
Plugins to rehearse with.

Their actions echo, read and write variables, wait and fail. An action sees its parameters and the
context of the step that calls it, and may change the variables.
-/

namespace Orchestra.Rehearsal

namespace Actions

/-- The actions of each plugin that can be called. -/
def ofPlugin? (plugin : String) : Option (List String) :=
  match plugin with
  | "math" => some ["double"]
  | "util" =>
    some ["echo", "aecho", "value", "get", "set", "drop", "keys", "len", "explode", "fail_times",
      "sleep"]
  | "rawdict" => some ["echo"]
  | "empty" | "noactions" | "nulldict" => some []
  | _ => none

end Actions

/-- How often each key was tried. -/
abbrev Counters := List (Value × Nat)

/-- Counts one more try of a key; how many there are now. -/
def Counters.count (key : Value) : Counters → Nat × Counters
  | [] => (1, [(key, 1)])
  | (other, tries) :: rest =>
    if other.same key then (tries + 1, (other, tries + 1) :: rest)
    else
      let (result, rest) := Counters.count key rest
      (result, (other, tries) :: rest)

/-- What an action does: how it ends, the variables it leaves, and how long it waits before. -/
structure Effect where
  outcome : Except Failure Value
  bindings : Variables
  counters : Counters
  /-- The seconds of a wait; an action that does not wait ends at once. -/
  wait : Option Float := none

namespace Actions

def twice (item : Option Value) : Except Failure Value :=
  match item with
  | none => .error (.missingKey "item")
  | some (.int n) => .ok (.int (n * 2))
  | some _ => .error (.value "not a number")

/-- Milliseconds as seconds. -/
def secondsOfMilliseconds (amount : Value) : Float :=
  match amount.number?.map (Number.divBy 1000) with
  | some (.ok seconds) => seconds
  | _ => 0.0

/-- A parameter that has to be there. -/
def given (params : Value) (name : String) : Except Failure Value :=
  match params.key? name with
  | some value => .ok value
  | none => .error (.missingKey name)

/-- The whole number that a value stands for: a double loses its fraction, and a text is read. -/
def count (value : Value) : Except Failure Int :=
  match value with
  | .str s =>
    match Text.readBounded s.toList with
    | .ok n => .ok n
    | .error (.tooLong digits) => .error (.tooManyDigits digits)
    | .error .malformed =>
      .error (.value ("invalid literal for int() with base 10: "
        ++ String.ofList ((Value.quoted s).toList.take 200)))
  | value =>
    match value.number? with
    | some (.int n) => .ok n
    | some (.float x) =>
      match Decimal.Binary.ofFloat x with
      | .nan => .error (.value "cannot convert float NaN to integer")
      | .infinite _ => .error (.foreign .overflow "cannot convert float infinity to integer")
      | binary => .ok (binary.truncate?.getD 0)
    | none =>
      .error (.type ("int() argument must be a string, a bytes-like object or a real number, not '"
        ++ value.kindName ++ "'"))

/-- Fails the first tries of a key. -/
def failTimes (tries : Nat) (params : Value) : Except Failure Value := do
  let limit ← count (← given params "n")
  if tries ≤ limit then
    throw (.runtime ("attempt " ++ String.ofList (Text.naturalText tries) ++ " failed"))
  return .int tries

/-- What a path of a context leads to, null where it leads nowhere. Within a loop, a path to the
variables gives a handle of them. -/
def lookUp (context : Context) (path : Value) : Except Failure Value :=
  match path with
  | .str path =>
    match context.bindings, Path.parts path with
    | .loop layer outer, "variables" :: names =>
      match (Variables.loop layer outer).handleAt? names with
      | some handle => .ok handle
      | none => .ok (context.toValue.lookupD path .null)
    | _, _ => .ok (context.toValue.lookupD path .null)
  | path => .error (.noAttribute path "strip")

/-- Calls an action with parameters in a context. -/
def perform (plugin action : String) (params : Value) (context : Context) (counters : Counters) :
    Effect :=
  let bindings := context.bindings
  let param (name : String) (default : Value) := (params.key? name).getD default
  let keep (outcome : Except Failure Value) : Effect := { outcome, bindings, counters }
  match plugin, action with
  | "math", _ => keep (twice (bindings.get? "item"))
  | _, "value" => keep (.ok (param "value" .null))
  | _, "get" => keep ((given params "path").bind (lookUp context))
  | _, "set" =>
    match given params "name" with
    | .error failure => keep (.error failure)
    | .ok name =>
      let value := param "value" .null
      { outcome := .ok value, bindings := bindings.set name.text value, counters }
  | _, "drop" =>
    match given params "name" with
    | .error failure => keep (.error failure)
    | .ok name =>
      match bindings.erase? name.text with
      | some bindings => { outcome := .ok .null, bindings, counters }
      | none => keep (.error (.foreign .key name.literal))
  | _, "keys" =>
    keep (.ok (.list
      ((bindings.entries.keys.mergeSort fun a b => decide (a ≤ b)).map Value.str)))
  | _, "len" => keep (.ok (.int bindings.entries.length))
  | _, "explode" => keep (.error (.runtime (param "message" (.str "plugin exploded")).text))
  | _, "fail_times" =>
    let (tries, counters) := counters.count (param "key" (.str ""))
    { outcome := failTimes tries params, bindings, counters }
  | _, "sleep" =>
    match (given params "ms").bind fun amount => (amount.dividedBy 1000).mapError Failure.operand with
    | .error failure => keep (.error failure)
    | .ok seconds =>
      { outcome := .ok (param "value" .null), bindings, counters, wait := some seconds }
  | _, _ => keep (.ok params)

end Actions

end Orchestra.Rehearsal
