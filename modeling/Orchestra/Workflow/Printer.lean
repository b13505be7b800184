import Orchestra.Workflow.Definition

/-!
Definitions as plain data, every field under its name.
-/

namespace Orchestra

namespace Comparison

def name : Comparison → String
  | .eq => "Eq"
  | .ne => "Ne"
  | .gt => "Gt"
  | .gte => "Gte"
  | .lt => "Lt"
  | .lte => "Lte"

end Comparison

namespace Condition

mutual

/-- A condition as a tree: its kind over its parts. -/
def toValue : Condition → Value
  | .field path expected => .obj [("FieldEq", .list [.str path, expected])]
  | .compare comparison path expected =>
    .obj [(comparison.name, .list [.str path, expected])]
  | .all conditions => .obj [("And", .list (toValues conditions))]
  | .any conditions => .obj [("Or", .list (toValues conditions))]

def toValues : List Condition → List Value
  | [] => []
  | condition :: rest => condition.toValue :: toValues rest

end

end Condition

/-- Fields that may be absent. -/
def Value.ofFields? : Option Fields → Value
  | some fields => .obj fields
  | none => .null

def Query.toFields (query : Query) : Fields :=
  [("entity", .ofString? query.entity), ("action", .ofString? query.action),
    ("data", .ofFields? query.data), ("where", .ofOption (query.selector.map Selector.toValue))]

def Email.toFields (email : Email) : Fields :=
  [("to", .ofString? email.recipient), ("subject", .ofString? email.subject),
    ("body", .ofString? email.body), ("template", .ofString? email.template)]

def Webhook.toFields (webhook : Webhook) : Fields :=
  [("url", .ofString? webhook.url), ("method", .str webhook.method),
    ("headers", .ofFields? (webhook.headers.map fun headers =>
      headers.map fun (name, value) => (name, .str value))),
    ("payload", webhook.payload)]

def PluginCall.toFields (call : PluginCall) : Fields :=
  [("plugin", .ofString? call.plugin), ("action_name", .ofString? call.action),
    ("params", .ofFields? call.params)]

def Notice.toFields (notice : Notice) : Fields :=
  [("adapter", .ofString? notice.adapter), ("channel", .ofString? notice.channel),
    ("to", .ofString? notice.recipient), ("subject", .ofString? notice.subject),
    ("body", .ofString? notice.body), ("template", .ofString? notice.template),
    ("params", .ofFields? notice.params), ("metadata", .ofFields? notice.metadata)]

namespace Step

/-- The fields that every step has. -/
def head (kind : String) (target : Option String) : Fields :=
  [("type", .str kind), ("assign_to", .ofString? target)]

mutual

def toValue : Step → Value
  | .query target details => .obj (head "query" target ++ details.toFields)
  | .email target details => .obj (head "email" target ++ details.toFields)
  | .webhook target details => .obj (head "webhook" target ++ details.toFields)
  | .plugin target details => .obj (head "plugin" target ++ details.toFields)
  | .notify target details => .obj (head "notify" target ++ details.toFields)
  | .delay target duration =>
    .obj (head "delay" target ++ [("duration", .ofOption (duration.map Duration.toValue))])
  | .condition target test onTrue onFalse =>
    .obj (head "condition" target ++ [("if_", .ofOption (test.map Condition.toValue)),
      ("then", .list (toValues onTrue)), ("else_", .list (toValues onFalse))])
  | .loop target items none =>
    .obj (head "loop" target ++ [("items", .ofOption items), ("do", .null)])
  | .loop target items (some body) =>
    .obj (head "loop" target ++ [("items", .ofOption items), ("do", .list (toValues body))])

def toValues : List Step → List Value
  | [] => []
  | step :: rest => step.toValue :: toValues rest

end

end Step

def Trigger.toFields (trigger : Trigger) : Fields :=
  [("entity", .ofString? trigger.entity),
    ("event", .ofString? (trigger.event.map EntityEvent.name)),
    ("condition", .ofFields? trigger.condition), ("webhook", .ofString? trigger.webhook),
    ("schedule", .ofString? trigger.schedule), ("is_manual", .bool trigger.isManual)]

def Definition.toFields (definition : Definition) : Fields :=
  [("name", .str definition.name), ("description", .ofString? definition.description),
    ("trigger", .obj definition.trigger.toFields),
    ("steps", .list (Step.toValues definition.steps)), ("enabled", .bool definition.enabled),
    ("retries", .ofOption (definition.retries.map fun count => .int count))]

end Orchestra
