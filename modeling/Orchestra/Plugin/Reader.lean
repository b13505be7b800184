import Orchestra.Plugin.Registry

/-!
Entry points that are described by data.

The target is a set of bare actions, or an object that may tell its actions, its version and what it is
for; actions that are told as anything but a set count as none.
-/

namespace Orchestra

/-- The names of actions that are told as a list. -/
def actionNames (value : Value) : Option (List Value) :=
  match value with
  | .list names => some names
  | _ => none

/-- What the actions are told as in place of a set. -/
def misplacedActions (value : Value) : Option (List Value) :=
  match value with
  | .obj fields => some ((Fields.keys fields).map Value.str)
  | _ => none

def EntryTarget.ofFields (target : Fields) : EntryTarget :=
  let actions := actionNames (target.valueD "actions" .null)
  if (target.valueD "kind" .null).str? == some "dict" then .actions (actions.getD [])
  else
    .described
      (match target.get? "bad" with
        | some other => misplacedActions other
        | none => actions)
      (target.valueD "version" unversioned) (target.valueD "description" (.str ""))

def EntryPoint.ofFields (entry : Fields) : EntryPoint :=
  { name := entry.valueD "name" .null
    package := (entry.get? "dist").filter fun version => !version.same .null
    target :=
      match entry.valueD "error" .null with
      | .null => .ofFields (entry.inner "target")
      | error => .broken error.text }

end Orchestra
