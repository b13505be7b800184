import Orchestra.Condition.Reader

/-!
The steps of a workflow.

Fields that a step needs to run may be absent: a step with a missing field fails when it runs.
-/

namespace Orchestra

/-- Which records a query is about: the identity of one, or fields to agree with. -/
inductive Selector where
  | identity (id : String)
  | matching (fields : Fields)

def Selector.toValue : Selector → Value
  | .identity id => .str id
  | .matching fields => .obj fields

/-- A waiting time: milliseconds, or a text that is resolved and read when the step runs. -/
inductive Duration where
  | milliseconds (amount : Number)
  | text (source : String)

def Duration.toValue : Duration → Value
  | .milliseconds amount => Value.ofNumber amount
  | .text source => .str source

/-- A read or a change of the records of an entity. -/
structure Query where
  entity : Option String
  action : Option String
  data : Option Fields
  selector : Option Selector

structure Email where
  recipient : Option String
  subject : Option String
  body : Option String
  template : Option String

/-- A request to a web address. -/
structure Webhook where
  url : Option String
  method : String
  headers : Option (List (String × String))
  payload : Value

/-- A call of an action of a plugin. -/
structure PluginCall where
  plugin : Option String
  action : Option String
  params : Option Fields

structure Notice where
  adapter : Option String
  channel : Option String
  recipient : Option String
  subject : Option String
  body : Option String
  template : Option String
  params : Option Fields
  metadata : Option Fields

/-- One step; its outcome is bound to the variable `assignTo` when there is one. -/
inductive Step where
  | query (assignTo : Option String) (query : Query)
  | email (assignTo : Option String) (email : Email)
  | webhook (assignTo : Option String) (webhook : Webhook)
  | plugin (assignTo : Option String) (call : PluginCall)
  | notify (assignTo : Option String) (notice : Notice)
  | delay (assignTo : Option String) (duration : Option Duration)
  | condition (assignTo : Option String) (test : Option Condition) (onTrue onFalse : List Step)
  | loop (assignTo : Option String) (items : Option Value) (body : Option (List Step))

namespace Step

/-- The name of the kind of a step. -/
def kindName : Step → String
  | .query .. => "query"
  | .email .. => "email"
  | .webhook .. => "webhook"
  | .plugin .. => "plugin"
  | .notify .. => "notify"
  | .delay .. => "delay"
  | .condition .. => "condition"
  | .loop .. => "loop"

/-- The variable that the outcome of a step is bound to; an empty name is none. -/
def target? (step : Step) : Option String :=
  let name :=
    match step with
    | .query name _ | .email name _ | .webhook name _ | .plugin name _ | .notify name _
    | .delay name _ | .condition name .. | .loop name .. => name
  name.filter (· != "")

end Step

end Orchestra
