import Orchestra.Failure
import Orchestra.Path
import Orchestra.Variables
import Orchestra.Workflow.Definition

/-!
What the steps of a run see: the trigger, the variables, the place in a cascade, and the session and
request that came with the start.
-/

namespace Orchestra

/-- How a run was started. -/
inductive TriggerKind where
  | entity
  | webhook
  | schedule
  | manual
deriving DecidableEq, Repr

namespace TriggerKind

def name : TriggerKind → String
  | .entity => "entity"
  | .webhook => "webhook"
  | .schedule => "schedule"
  | .manual => "manual"

def all : List TriggerKind :=
  [.entity, .webhook, .schedule, .manual]

def ofName? (name : String) : Option TriggerKind :=
  all.find? fun kind => kind.name == name

/-- The kind that a value names. -/
def ofValue (value : Value) : Except Failure TriggerKind :=
  match value.str?.bind ofName? with
  | some kind => .ok kind
  | none => .error (.value (value.literal ++ " is not a valid TriggerType"))

/-- The kind as a member of its enumeration. -/
def toValue (kind : TriggerKind) : Value :=
  .choice "TriggerType" (kind.name.map Char.toUpper) kind.name

end TriggerKind

/-- The details of the event that started a run. -/
structure TriggerInfo where
  kind : TriggerKind := .manual
  entity : Value := .null
  event : Value := .null
  data : Value := .null
  before : Value := .null
  after : Value := .null
  /-- The workflow whose change of a record was the event. -/
  sourceWorkflow : Value := .null

def TriggerInfo.toValue (info : TriggerInfo) : Value :=
  .record "TriggerInfo" [("type", info.kind.toValue), ("entity", info.entity),
    ("event", info.event), ("data", info.data), ("before", info.before), ("after", info.after),
    ("source_workflow", info.sourceWorkflow)]

/-- Where a run stands in a chain of runs that start each other. -/
structure CascadeInfo where
  /-- The workflow under which changes of this run are reported. -/
  sourceWorkflow : Value := .null
  /-- The number of runs before this one in the chain. -/
  depth : Value := .int 0

def CascadeInfo.toValue (info : CascadeInfo) : Value :=
  .record "CascadeInfo" [("source_workflow", info.sourceWorkflow), ("depth", info.depth)]

structure Context where
  trigger : TriggerInfo := {}
  bindings : Variables := .root []
  cascade : CascadeInfo := {}
  session : Value := .null
  request : Value := .null

instance : Inhabited Context := ⟨{}⟩

namespace Context

/-- The context as the value that paths start from. -/
def toValue (context : Context) : Value :=
  .record "WorkflowContext" [("trigger", context.trigger.toValue),
    ("variables", context.bindings.view), ("cascade", context.cascade.toValue),
    ("session", context.session), ("request", context.request)]

/-- The context of a loop iteration. -/
def iterate (context : Context) (item : Value) (index : Nat) : Context :=
  { context with bindings := context.bindings.iterate item index }

/-- The context around the innermost loop. -/
def outer (context : Context) : Context :=
  { context with bindings := context.bindings.outer }

/-- Binds a variable. -/
def assign (context : Context) (name : String) (value : Value) : Context :=
  { context with bindings := context.bindings.set name value }

/-- Names the workflow that changes are reported under, unless one is named. -/
def startedBy (context : Context) (workflow : String) : Context :=
  match context.cascade.sourceWorkflow with
  | .null =>
    { context with cascade := { context.cascade with sourceWorkflow := .str workflow } }
  | _ => context

end Context

end Orchestra
