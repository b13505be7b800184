import Orchestra.Workflow.Definition
import Orchestra.Failure

/-!
Reading of workflow definitions from data.

Unknown fields are ignored, all faults are reported together in the order of the fields, and
conditions are compiled while reading, so that a definition with a malformed one is refused.
-/

namespace Orchestra

namespace Workflow

/-- The fields whose values are lists of steps. -/
def branchNames : List String := ["then", "else", "else_", "do"]

/-- The readings of the step lists of an object, by field name. -/
abbrev Branches := List (String × Checked (List Step))

/-- A list of steps that may be absent under all its names. -/
def branch (branches : Branches) (name : String) (others : List String) : Checked (List Step) :=
  let named (field : String) := (List.lookup field branches).map fun reading => (field, reading)
  match (name :: others).findSome? named with
  | some (used, reading) => reading.within (.key used)
  | none => .valid []

/-- A string field that may be absent or null. -/
def textField (entries : Fields) (name : String) : Checked (Option String) :=
  Read.optional entries name Read.string

def target (entries : Fields) : Checked (Option String) :=
  Read.fieldD entries "assignTo" ["assign_to"] none (Read.nullable Read.string)

/-- Reads an identity or fields; the faults of both readings are reported. -/
def selector : Read.Reader Selector
  | .str id => .valid (.identity id)
  | .obj fields => .valid (.matching fields)
  | _ =>
    .invalid ⟨.stringType, [.key "str"]⟩ [⟨.dictType, [.key "dict[str,any]"]⟩]

/-- Reads a duration; an exact kind wins over a conversion. -/
def duration : Read.Reader Duration
  | .int n => .valid (.milliseconds (.int n))
  | .bool b => .valid (.milliseconds (.int (if b then 1 else 0)))
  | .float x => .valid (.milliseconds (.float x))
  | .str s => .valid (.text s)
  | _ =>
    .invalid ⟨.intType, [.key "int"]⟩
      [⟨.floatType, [.key "float"]⟩, ⟨.stringType, [.key "str"]⟩]

/-- Compiles a condition while reading. -/
def test : Read.Reader Condition := fun value =>
  match Condition.ofValue value with
  | .ok condition => .valid condition
  | .error error => Checked.fault (.valueError ("Value error, " ++ error.message))

def query (entries : Fields) : Checked Query :=
  Query.mk <$> textField entries "entity" <*> textField entries "action"
    <*> Read.optional entries "data" Read.fields <*> Read.optional entries "where" selector

def email (entries : Fields) : Checked Email :=
  Email.mk <$> textField entries "to" <*> textField entries "subject" <*> textField entries "body"
    <*> textField entries "template"

def webhook (entries : Fields) : Checked Webhook :=
  Webhook.mk <$> textField entries "url" <*> Read.fieldD entries "method" [] "POST" Read.string
    <*> Read.optional entries "headers" (Read.mapping Read.string)
    <*> Read.fieldD entries "payload" [] .null Read.any

def pluginCall (entries : Fields) : Checked PluginCall :=
  PluginCall.mk <$> textField entries "plugin" <*> textField entries "action_name"
    <*> Read.optional entries "params" Read.fields

def notice (entries : Fields) : Checked Notice :=
  Notice.mk <$> textField entries "adapter" <*> textField entries "channel" <*> textField entries "to"
    <*> textField entries "subject" <*> textField entries "body" <*> textField entries "template"
    <*> Read.optional entries "params" Read.fields <*> Read.optional entries "metadata" Read.fields

/-- The test of a condition step. -/
def testField (entries : Fields) : Checked (Option Condition) :=
  Read.fieldD entries "if" ["if_"] none (Read.nullable test)

/-- The body of a loop, which may be absent or null. -/
def bodyField (entries : Fields) (branches : Branches) : Checked (Option (List Step)) :=
  match entries.get? "do" with
  | none | some .null => .valid none
  | some _ => (branch branches "do" []).map some

/-- The kinds of steps. -/
def stepKinds : List String :=
  ["query", "email", "webhook", "plugin", "notify", "delay", "condition", "loop"]

/-- Reads the fields of a step of a kind. -/
def stepOf (kind : String) (entries : Fields) (branches : Branches) : Checked Step :=
  match kind with
  | "query" => Step.query <$> target entries <*> query entries
  | "email" => Step.email <$> target entries <*> email entries
  | "webhook" => Step.webhook <$> target entries <*> webhook entries
  | "plugin" => Step.plugin <$> target entries <*> pluginCall entries
  | "notify" => Step.notify <$> target entries <*> notice entries
  | "delay" => Step.delay <$> target entries <*> Read.optional entries "duration" duration
  | "condition" =>
    Step.condition <$> target entries <*> testField entries <*> branch branches "then" []
      <*> branch branches "else" ["else_"]
  | "loop" =>
    Step.loop <$> target entries <*> Read.optional entries "items" Read.any
      <*> bodyField entries branches
  | _ => Checked.fault .unionTagInvalid

/-- How many steps may stand inside one another. -/
def maxDepth : Nat := 254

/-- Reads a step inside `depth` others, of the kind that its `type` names. -/
def stepFields (depth : Nat) (entries : Fields) (branches : Branches) : Checked Step :=
  match entries.get? "type" with
  | none => Checked.fault .unionTagNotFound
  | some (.str kind) =>
    if stepKinds.contains kind then
      (if depth < maxDepth then stepOf kind entries branches
        else Checked.fault .recursionDepthExceeded).within (.key kind)
    else Checked.fault .unionTagInvalid
  | some _ => Checked.fault .unionTagInvalid

mutual

/-- Reads a step inside `depth` others. -/
def step (depth : Nat) : Value → Checked Step
  | .obj entries => stepFields depth entries (branchesOf (depth + 1) entries)
  | _ => Checked.fault .modelAttributesType

/-- Reads a list of steps. -/
def steps (depth : Nat) : Value → Checked (List Step)
  | .list items => stepItems depth 0 items
  | _ => Checked.fault .listType

def stepItems (depth position : Nat) : List Value → Checked (List Step)
  | [] => .valid []
  | item :: rest =>
    List.cons <$> (step depth item).within (.index position) <*> stepItems depth (position + 1) rest

/-- Reads the step lists among the fields of an object. -/
def branchesOf (depth : Nat) : List (String × Value) → Branches
  | [] => []
  | (name, value) :: rest =>
    if branchNames.contains name then (name, steps depth value) :: branchesOf depth rest
    else branchesOf depth rest

end

/-- Reads the condition of a trigger; it is kept as written once it is known to compile. -/
def triggerCondition : Read.Reader Fields
  | .obj fields => (test (.obj fields)).map fun _ => fields
  | _ => Checked.fault .dictType

def event : Read.Reader EntityEvent
  | .str name =>
    match EntityEvent.ofName? name with
    | some event => .valid event
    | none => Checked.fault .literalError
  | _ => Checked.fault .literalError

def trigger : Read.Reader Trigger
  | .obj entries =>
    Trigger.mk <$> textField entries "entity" <*> Read.optional entries "event" event
      <*> Read.optional entries "condition" triggerCondition <*> textField entries "webhook"
      <*> textField entries "schedule"
  | _ => Checked.fault .modelType

/-- Reads a definition. -/
def definition : Read.Reader Definition
  | .obj entries =>
    Definition.mk <$> Read.fieldD entries "name" [] "" Read.string <*> textField entries "description"
      <*> Read.fieldD entries "trigger" [] {} trigger <*> Read.fieldD entries "steps" [] [] (steps 0)
      <*> Read.fieldD entries "enabled" [] true Read.boolean
      <*> Read.optional entries "retries" (fun value => (Read.integerFrom 0 value).map Int.toNat)
  | _ => Checked.fault .modelType

/-- The name that data gives a definition, readable or not. -/
def givenName : Value → String
  | .obj entries =>
    match Fields.get? entries "name" with
    | some value => value.text
    | none => "<unnamed>"
  | _ => "<invalid>"

end Workflow

/-- The definition that data describes, or the failure with everything that is wrong with it. -/
def Definition.ofValue (data : Value) : Except Failure Definition :=
  match Workflow.definition data with
  | .valid definition => .ok definition
  | .invalid first rest => .error (.invalidDefinition (Workflow.givenName data) first rest)

end Orchestra
