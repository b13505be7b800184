import Orchestra.Execution.Context
import Orchestra.Notification.Message
import Orchestra.Program

/-!
What the steps of a run ask of the collaborators, and the answers.

Every question carries the context at its time. An answer carries the variables that hold
afterwards, since the action of a plugin may change them.
-/

namespace Orchestra

/-- The news that a record was changed. -/
structure EntityReport where
  entity : String
  event : EntityEvent
  before : Value
  after : Value
  sourceWorkflow : Value
  depth : Value

namespace Execution

/-- A question to a collaborator. -/
inductive Call where
  /-- The records of an entity that a selector fits. -/
  | find (entity : String) (selector : Value)
  | read (entity id : String)
  | create (entity : String) (data : Value)
  | update (entity id : String) (data : Value)
  | delete (entity id : String)
  | report (news : EntityReport)
  | mail (recipient subject body : String) (template : Option String)
  | fetch (url method : String) (headers : Value) (body : Value)
  | notify (message : Message)
  | act (plugin action : String) (params : Value)
  /-- Wait for some seconds. -/
  | wait (seconds : Float)

structure Question where
  context : Context
  call : Call

structure Answer where
  outcome : Except Failure Value
  bindings : Variables

/-- The conversation between a run and its collaborators. -/
def conversation : Interface :=
  ⟨Question, fun _ => Answer⟩

/-- The collaborators that are there, and the actions of each plugin that can be called. -/
structure Collaborators where
  data : Bool := true
  email : Bool := true
  http : Bool := true
  notifications : Bool := true
  events : Bool := true
  plugins : Option (String → Option (List String)) := none

/-- An activity within a run: it may ask, fail and change the context. -/
def Activity (α : Type) : Type :=
  Context → Program conversation (Except Failure α × Context)

namespace Activity

variable {α β : Type}

def pure (value : α) : Activity α :=
  fun context => .done (.ok value, context)

def fail (failure : Failure) : Activity α :=
  fun context => .done (.error failure, context)

/-- One activity after the other; a failure ends both. -/
def bind (first : Activity α) (second : α → Activity β) : Activity β :=
  fun context => (first context).bind fun
    | (.ok value, context) => second value context
    | (.error failure, context) => .done (.error failure, context)

instance : Monad Activity where
  pure := pure
  bind := bind

/-- The context as it is. -/
def context : Activity Context :=
  fun context => .done (.ok context, context)

def assign (name : String) (value : Value) : Activity Unit :=
  fun context => .done (.ok (), context.assign name value)

/-- Asks a collaborator. -/
def ask (call : Call) : Activity Value :=
  fun context => .ask ⟨context, call⟩ fun (answer : Answer) =>
    .done (answer.outcome, { context with bindings := answer.bindings })

/-- The outcome of an activity, which then does not fail. -/
def attempt (activity : Activity α) : Activity (Except Failure α) :=
  fun context => (activity context).map fun (outcome, context) => (.ok outcome, context)

/-- An activity with the variables of a loop iteration around it. -/
def within (item : Value) (index : Nat) (activity : Activity α) : Activity α :=
  fun context => (activity (context.iterate item index)).map fun (outcome, inner) =>
    (outcome, inner.outer)

/-- A value that must be there. -/
def require (value : Option α) (message : String) : Activity α :=
  match value with
  | some value => pure value
  | none => fail (.stepInvalid message)

/-- A collaborator that must be there. -/
def need (present : Bool) (service : String) : Activity Unit :=
  if present then pure () else fail (.serviceMissing (.str service))

end Activity

end Execution

end Orchestra
