import Orchestra.Execution.Run

/-!
Contexts and results of runs as plain data, and contexts from data.
-/

namespace Orchestra

namespace Context

/-- The first name among fields that is not known. -/
def unknownName? (known : List String) (fields : Fields) : Option String :=
  fields.keys.find? fun name => !known.contains name

/-- The fields of a record have the names that it knows. -/
def checkNames (kind : String) (known : List String) (fields : Fields) : Except Failure Unit :=
  match unknownName? known fields with
  | some name =>
    .error (.type (kind ++ ".__init__() got an unexpected keyword argument '" ++ name ++ "'"))
  | none => .ok ()

end Context

/-- The trigger that fields describe. -/
def TriggerInfo.ofFields (fields : Fields) : Except Failure TriggerInfo := do
  let part (name : String) : Value := fields.valueD name .null
  let kind ← TriggerKind.ofValue (fields.valueD "type" (.str TriggerKind.manual.name))
  Context.checkNames "TriggerInfo"
    ["type", "entity", "event", "data", "before", "after", "source_workflow"] fields
  return {
    kind
    entity := part "entity"
    event := part "event"
    data := part "data"
    before := part "before"
    after := part "after"
    sourceWorkflow := part "source_workflow" }

/-- The place in a cascade that fields describe. -/
def CascadeInfo.ofFields (fields : Fields) : Except Failure CascadeInfo := do
  Context.checkNames "CascadeInfo" ["source_workflow", "depth"] fields
  return {
    sourceWorkflow := fields.valueD "source_workflow" .null
    depth := fields.valueD "depth" (.int 0) }

namespace Context

/-- The context that fields describe, with everything else at its default. -/
def ofFields (fields : Fields) : Except Failure Context := do
  let parts (name : String) : Fields :=
    match fields.get? name with
    | some (.obj fields) => fields
    | _ => []
  return {
    trigger := ← TriggerInfo.ofFields (parts "trigger")
    bindings := .root (parts "variables")
    cascade := ← CascadeInfo.ofFields (parts "cascade")
    session := fields.valueD "session" .null
    request := fields.valueD "request" .null }

def toFields (context : Context) : Fields :=
  let trigger := context.trigger
  [("trigger", .obj [("type", .str trigger.kind.name), ("entity", trigger.entity),
      ("event", trigger.event), ("data", trigger.data), ("before", trigger.before),
      ("after", trigger.after), ("source_workflow", trigger.sourceWorkflow)]),
    ("variables", .obj context.bindings.entries),
    ("cascade", .obj [("source_workflow", context.cascade.sourceWorkflow),
      ("depth", context.cascade.depth)]),
    ("session", context.session), ("request", context.request)]

end Context

namespace Execution

def LogEntry.toValue (entry : LogEntry) : Value :=
  .list [.str entry.level.name, .str entry.message, entry.data]

/-- The result of a run: whether it succeeded, its variables or its error, and its trail. -/
def RunResult.toFields (result : RunResult) : Fields :=
  let logs := Value.list (result.logs.map LogEntry.toValue)
  match result.outcome with
  | .ok fields =>
    [("success", .bool true), ("result", .obj fields), ("error", .null), ("logs", logs)]
  | .error failure =>
    [("success", .bool false), ("result", .null), ("error", .str failure.wording), ("logs", logs)]

end Execution

end Orchestra
