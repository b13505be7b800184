import Orchestra.Execution.Conversation
import Orchestra.Template
import Orchestra.Text.Case

/-!
Running of steps.

Steps run in order; the first that fails ends the run, and nothing that was done is undone. A step
whose fields are incomplete fails before it asks any collaborator.
-/

namespace Orchestra.Execution

open Activity

/-- The placeholders in a value can be replaced by text. -/
def requireWritable (value : Value) : Activity Unit := do
  if Template.isWritable (← context).toValue value then return ()
  else fail .unwritable

/-- A value with the placeholders in its strings replaced. -/
def resolvedValue (value : Value) : Activity Value := do
  requireWritable value
  return Template.resolve (← context).toValue value

/-- A text with its placeholders replaced. -/
def resolved (text : String) : Activity String := do
  requireWritable (.str text)
  return Template.resolveString (← context).toValue text

/-- A text that may be absent, with its placeholders replaced. -/
def resolvedText (text : Option String) : Activity (Option String) := do
  match text with
  | some text => return some (← resolved text)
  | none => return none

/-- Fields that may be absent, with their placeholders replaced. -/
def resolvedFields (fields : Option Fields) : Activity Fields := do
  match fields with
  | some fields =>
    requireWritable (.obj fields)
    return Template.resolveFields (← context).toValue fields
  | none => return []

/-- A value that may be absent, with its placeholders replaced. -/
def resolvedIfAny (value : Option Value) : Activity (Option Value) := do
  match value with
  | some value => return some (← resolvedValue value)
  | none => return none

/-- A text that is there and not empty. -/
def nonEmpty (text : Option String) : Option String :=
  text.filter (· != "")

/-- The identity of a record in a resolved selector. -/
def identity? : Option Value → Option String
  | some (.str id) => nonEmpty (some id)
  | some (.obj fields) =>
    match fields.lookup "id" with
    | none | some .null => none
    | some (.str id) => nonEmpty (some id)
    | some value => some value.text
  | _ => none

/-- Tells of a change of a record. The change is made; a listener that fails does not undo it. -/
def announce (collaborators : Collaborators) (entity : String) (event : EntityEvent)
    (before after : Value) : Activity Unit := do
  if collaborators.events then
    let cascade := (← context).cascade
    let _ ← attempt (ask (.report {
      entity, event, before, after
      sourceWorkflow :=
        if cascade.sourceWorkflow.truthy then cascade.sourceWorkflow else .str "unknown"
      depth := cascade.depth }))

/-- The record before a change, null when it cannot be read. -/
def readBefore (entity id : String) : Activity Value := do
  match ← attempt (ask (.read entity id)) with
  | .ok record => return record
  | .error _ => return .null

def create (collaborators : Collaborators) (entity : String) (data : Fields) : Activity Value := do
  if data.isEmpty then
    fail (.stepInvalid "Create action requires data")
  else
    let record ← ask (.create entity (.obj data))
    announce collaborators entity .create .null record
    return record

def update (collaborators : Collaborators) (entity id : String) (data : Fields) :
    Activity Value := do
  let before ← readBefore entity id
  let record ← ask (.update entity id (.obj data))
  announce collaborators entity .update before record
  return record

def delete (collaborators : Collaborators) (entity id : String) : Activity Value := do
  let before ← readBefore entity id
  let outcome ← ask (.delete entity id)
  announce collaborators entity .delete before .null
  return outcome

/-- What a query does. -/
inductive QueryAction where
  | find
  | create
  | change (event : EntityEvent)

/-- The action of a name. -/
def queryAction? (name : String) : Option QueryAction :=
  match name with
  | "find" => some .find
  | "create" => some .create
  | "update" => some (.change .update)
  | "delete" => some (.change .delete)
  | _ => none

def runQuery (collaborators : Collaborators) (query : Query) : Activity Value := do
  need collaborators.data "Data layer"
  let entity ← require (nonEmpty query.entity) "Query step requires entity"
  let name ← require (nonEmpty query.action) "Query step requires action"
  let action ← require (queryAction? name) ("Unknown query action: " ++ name)
  let data ← resolvedFields query.data
  let selector ← resolvedIfAny (query.selector.map Selector.toValue)
  match action with
  | .find => ask (.find entity (.ofOption selector))
  | .create => create collaborators entity data
  | .change event =>
    let id ← require (identity? selector)
      (Text.capitalize name ++ " action requires an id in the where clause")
    match event with
    | .delete => delete collaborators entity id
    | _ => update collaborators entity id data

def runEmail (collaborators : Collaborators) (email : Email) : Activity Value := do
  need collaborators.email "Email service"
  let recipient ← resolvedText email.recipient
  let subject ← resolvedText email.subject
  let recipient ← require (nonEmpty recipient) "Email step requires to"
  let subject ← require (nonEmpty subject) "Email step requires subject"
  let body ← resolvedText email.body
  let _ ← ask (.mail recipient subject (body.getD "") email.template)
  return .null

def runWebhook (collaborators : Collaborators) (webhook : Webhook) : Activity Value := do
  need collaborators.http "HTTP client"
  let url ← require (nonEmpty webhook.url) "Webhook step requires url"
  let url ← resolved url
  let headers ← resolvedIfAny (webhook.headers.map fun headers =>
    .obj (headers.map fun (name, value) => (name, .str value)))
  let body ← resolvedValue webhook.payload
  ask (.fetch url ((nonEmpty (some webhook.method)).getD "POST") (.ofOption headers) body)

def runNotice (collaborators : Collaborators) (notice : Notice) : Activity Value := do
  need collaborators.notifications "Notification service"
  let message : Message := {
    adapter := .ofString? notice.adapter
    channel := .ofString? (← resolvedText notice.channel)
    recipient := .ofString? (← resolvedText notice.recipient)
    subject := .ofString? (← resolvedText notice.subject)
    body := .ofString? (← resolvedText notice.body)
    template := .ofString? notice.template
    params := .obj (← resolvedFields notice.params)
    metadata := .obj (← resolvedFields notice.metadata) }
  let _ ← ask (.notify message)
  return .null

def runPlugin (collaborators : Collaborators) (call : PluginCall) : Activity Value := do
  match collaborators.plugins with
  | none => fail (.serviceMissing (.str "Plugin registry"))
  | some actionsOf =>
    let plugin ← require (nonEmpty call.plugin) "Plugin step requires plugin"
    let action ← require (nonEmpty call.action) "Plugin step requires action_name"
    match actionsOf plugin with
    | none => fail (.pluginNotFound plugin)
    | some actions =>
      if actions.contains action then
        ask (.act plugin action (.obj (← resolvedFields call.params)))
      else fail (.actionNotFound plugin action)

/-- The waiting time in milliseconds; a text counts by the integer it starts with. -/
def milliseconds? (duration : Duration) : Activity (Option Number) := do
  match duration with
  | .milliseconds amount => return some amount
  | .text source =>
    match Text.leadingInteger (← resolved source).toList with
    | .ok amount => return some (.int amount)
    | .error (.tooLong count) => fail (.tooManyDigits count)
    | .error .malformed => return none

def runDelay (duration : Option Duration) : Activity Value := do
  let duration ← require duration "Delay step requires duration"
  let amount := (← milliseconds? duration).filter fun amount => !amount.below (.int 0)
  let amount ← require amount ("Invalid delay duration: " ++ duration.toValue.text)
  match amount.divBy 1000 with
  | .ok seconds =>
    let _ ← ask (.wait seconds)
    return .null
  | .error error => fail (.outOfRange error)

/-- The items that a loop runs over. -/
def loopItems (items : Value) : Activity (List Value) := do
  let scope := (← context).toValue
  if !Template.standsForValue scope items then requireWritable items
  match Template.resolveValue scope items with
  | .list items => return items
  | value => fail (.stepInvalid ("Loop items must be an array, got " ++ value.kindName))

/-- Binds the outcome of an activity to the variable of a step. -/
def bound (target : Option String) (activity : Activity Value) : Activity Value := do
  let outcome ← activity
  match nonEmpty target with
  | some name =>
    assign name outcome
    return outcome
  | none => return outcome

/-- One activity per item, counted from `index`; their outcomes in a row. -/
def forEach (body : Activity (List Value)) (index : Nat) : List Value → Activity (List Value)
  | [] => Activity.pure []
  | item :: rest => do
    let outcomes ← within item index body
    return outcomes ++ (← forEach body (index + 1) rest)

mutual

/-- Runs a step and binds its outcome. -/
def runStep (collaborators : Collaborators) : Step → Activity Value
  | .query target query => bound target (runQuery collaborators query)
  | .email target email => bound target (runEmail collaborators email)
  | .webhook target webhook => bound target (runWebhook collaborators webhook)
  | .plugin target call => bound target (runPlugin collaborators call)
  | .notify target notice => bound target (runNotice collaborators notice)
  | .delay target duration => bound target (runDelay duration)
  | .condition target test onTrue onFalse => bound target do
    let test ← require test "Condition step requires if"
    let _ ← if test.evaluate (← context).toValue then runSteps collaborators onTrue
      else runSteps collaborators onFalse
    return .null
  | .loop target items none => bound target do
    let _ ← require items "Loop step requires items"
    fail (.stepInvalid "Loop step requires do")
  | .loop target items (some body) => bound target do
    let items ← require items "Loop step requires items"
    return .list (← forEach (runSteps collaborators body) 0 (← loopItems items))

/-- Runs steps in order; their outcomes in a row. -/
def runSteps (collaborators : Collaborators) : List Step → Activity (List Value)
  | [] => Activity.pure []
  | step :: rest => do
    let outcome ← runStep collaborators step
    return outcome :: (← runSteps collaborators rest)

end

end Orchestra.Execution
