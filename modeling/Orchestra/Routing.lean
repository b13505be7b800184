import Orchestra.Condition.Reader
import Orchestra.Execution.Conversation
import Orchestra.Queue.Control

/-!
Triggers: which workflows an occurrence starts, and in what context.

A manual start names its workflow. Every other occurrence starts each enabled workflow that listens
for it, in the order of registration.
-/

namespace Orchestra.Routing

variable {Time σ : Type}

/-- Queues a job for each workflow that fits; the first one that cannot be queued ends it. -/
def enqueueFitting (around : Surroundings Time σ) (fits : Definition → Except Failure Bool)
    (context : Context) :
    List (String × Definition) → Scene Time σ → Except Failure (List JobId) × Scene Time σ
  | [], scene => (.ok [], scene)
  | (_, workflow) :: rest, scene =>
    match if workflow.enabled then fits workflow else .ok false with
    | .error failure => (.error failure, scene)
    | .ok false => enqueueFitting around fits context rest scene
    | .ok true =>
      match Queue.enqueue around workflow.name context scene with
      | (.error failure, scene) => (.error failure, scene)
      | (.ok id, scene) =>
        let (ids, scene) := enqueueFitting around fits context rest scene
        (ids.map (id :: ·), scene)

/-- The context of a manual start; a session that comes with the data is taken over. -/
def manualContext (data : Value) : Context :=
  { trigger := { kind := .manual, data }
    bindings := .root [("data", data)]
    session :=
      match data with
      | .obj fields => Fields.valueD fields "session" .null
      | _ => .null }

/-- Starts a workflow by its name. -/
def start (around : Surroundings Time σ) (name data : Value) (scene : Scene Time σ) :
    Except Failure JobId × Scene Time σ :=
  Queue.enqueueValue around name (manualContext data) scene

/-- A change of a record. -/
structure Change where
  entity : Value
  event : Value
  before : Value := .null
  after : Value := .null

namespace Change

/-- The record after the change, or before it when it is gone. -/
def record (change : Change) : Value :=
  match change.after with
  | .null => change.before
  | after => after

/-- What the condition of a trigger looks values up in. -/
def scope (change : Change) : Value :=
  let fields :=
    match change.record with
    | .obj fields => fields
    | _ => []
  .obj (Fields.overlay fields
    [("before", change.before), ("after", change.after), ("data", change.record)])

/-- A workflow listens for the change, and its condition holds. -/
def fits (change : Change) (workflow : Definition) : Except Failure Bool :=
  let trigger := workflow.trigger
  if !(Value.ofString? trigger.entity).same change.entity
      || !(Value.ofString? (trigger.event.map EntityEvent.name)).same change.event then
    .ok false
  else
    match trigger.condition with
    | none | some [] => .ok true
    | some condition =>
      match Condition.ofValue (.obj condition) with
      | .ok condition => .ok (condition.evaluate change.scope)
      | .error error => .error (.condition error.message)

/-- The context of a run that a change starts. -/
def context (change : Change) (source depth : Value) : Context :=
  { trigger := {
      kind := .entity
      entity := change.entity
      event := change.event
      data := change.record
      before := change.before
      after := change.after
      sourceWorkflow := source }
    bindings := .root [("entity", change.record), ("data", change.record),
      ("before", change.before), ("after", change.after)]
    cascade := { depth } }

end Change

/-- The depth of the runs that a change starts: those after a change from outside stand at zero. -/
def nextDepth : Option CascadeInfo → Except OperandFault Value
  | none => .ok (.int 0)
  | some cascade => cascade.depth.plusWhole 1

/-- The depth of the runs that a change starts must keep to the limit. -/
def admittedDepth (maxDepth : Value) (cascade : Option CascadeInfo) : Except Failure Value := do
  let depth ← (nextDepth cascade).mapError Failure.operand
  if ← (depth.greater maxDepth).mapError Failure.operand then
    throw (.cascadeTooDeep depth maxDepth)
  return depth

/-- Starts the workflows that listen for a change; `cascade` tells which run made it. -/
def startOnChange (around : Surroundings Time σ) (maxDepth : Value) (change : Change)
    (cascade : Option CascadeInfo) (scene : Scene Time σ) :
    Except Failure (List JobId) × Scene Time σ :=
  match admittedDepth maxDepth cascade with
  | .error failure => (.error failure, scene)
  | .ok depth =>
    let source := (cascade.map CascadeInfo.sourceWorkflow).getD .null
    enqueueFitting around change.fits (change.context source depth) scene.1.workflows scene

/-- Starts the workflows that listen for changes, after a change that a run made. A change too deep
in its chain starts nothing. -/
def startOnReport (around : Surroundings Time σ) (maxDepth : Value) (news : EntityReport)
    (scene : Scene Time σ) : Except Failure (List JobId) × Scene Time σ :=
  let change : Change :=
    { entity := .str news.entity
      event := .str news.event.name
      before := news.before
      after := news.after }
  match startOnChange around maxDepth change (some ⟨news.sourceWorkflow, news.depth⟩) scene with
  | (.error (.cascadeTooDeep ..), scene) => (.ok [], scene)
  | outcome => outcome

/-- A request from outside to a path. -/
structure Delivery where
  path : Value
  headers : Value := .null
  body : Value := .null
  query : Value := .null

/-- A value, or an empty object in place of an empty one. -/
def orEmpty (value : Value) : Value :=
  if value.truthy then value else .obj []

def Delivery.request (delivery : Delivery) : Value :=
  .obj [("headers", orEmpty delivery.headers), ("body", delivery.body),
    ("query", orEmpty delivery.query)]

def Delivery.context (delivery : Delivery) : Context :=
  { trigger := { kind := .webhook, data := delivery.body }
    bindings := .root [("webhook", delivery.request)]
    request := delivery.request }

/-- A name that is there, not empty, and the one asked for. -/
def listensTo (name : Option String) (wanted : Value) : Bool :=
  name.any fun name => name != "" && wanted.str? == some name

/-- Starts the workflows that are bound to the path of a request. -/
def startOnDelivery (around : Surroundings Time σ) (delivery : Delivery) (scene : Scene Time σ) :
    Except Failure (List JobId) × Scene Time σ :=
  enqueueFitting around (fun workflow => .ok (listensTo workflow.trigger.webhook delivery.path))
    delivery.context scene.1.workflows scene

/-- The context of a run that a schedule starts. -/
def scheduleContext (stamp : Stamp) : Context :=
  { trigger := { kind := .schedule }
    bindings := .root [("timestamp", .str (Calendar.stampText stamp))] }

/-- Starts the workflows of a schedule. -/
def startOnSchedule (around : Surroundings Time σ) (expression : Value) (scene : Scene Time σ) :
    Except Failure (List JobId) × Scene Time σ :=
  enqueueFitting around (fun workflow => .ok (listensTo workflow.trigger.schedule expression))
    (scheduleContext around.stamp) scene.1.workflows scene

end Orchestra.Routing
