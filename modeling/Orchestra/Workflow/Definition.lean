import Orchestra.Workflow.Step

/-!
Workflow definitions: a named list of steps and the events that start it.
-/

namespace Orchestra

/-- What may happen to a record. -/
inductive EntityEvent where
  | create
  | update
  | delete
deriving DecidableEq, Repr

namespace EntityEvent

def name : EntityEvent → String
  | .create => "create"
  | .update => "update"
  | .delete => "delete"

/-- The event of a name. -/
def ofName? (name : String) : Option EntityEvent :=
  [EntityEvent.create, .update, .delete].find? fun event => event.name == name

end EntityEvent

/-- When a workflow runs by itself; an empty trigger leaves it to manual starts. -/
structure Trigger where
  entity : Option String := none
  event : Option EntityEvent := none
  condition : Option Fields := none
  webhook : Option String := none
  schedule : Option String := none

/-- A name that is there and not empty. -/
def isNamed (name : Option String) : Bool :=
  name.any (· != "")

/-- Nothing but a manual start begins the workflow. -/
def Trigger.isManual (trigger : Trigger) : Bool :=
  !(isNamed trigger.entity || isNamed trigger.webhook || isNamed trigger.schedule)

structure Definition where
  name : String := ""
  description : Option String := none
  trigger : Trigger := {}
  steps : List Step := []
  enabled : Bool := true
  retries : Option Nat := none

end Orchestra
