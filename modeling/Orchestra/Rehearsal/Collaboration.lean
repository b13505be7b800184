import Orchestra.Rehearsal.Exchange
import Orchestra.Rehearsal.Listening
import Orchestra.Routing

/-!
Runs and adapters in a rehearsal.

The calls of adapters go to the HTTP client of the team, to the scripted chat service, into the log,
into files, and to the mail server. The questions of runs go to the team. A run that belongs to a job
shares its variables with the record of the job: they are written back before every question, and
read again after the answer.
-/

namespace Orchestra.Rehearsal

namespace Errands

/-- Sends a request through the HTTP client of the team. -/
def fetch (url : Value) (method : String) (headers body : Value) :
    Process World (Except Failure Value) := do
  let world ← Process.look
  match world.team.fetcher with
  | .absent => return .error (.serviceMissing (.str "HTTP client"))
  | .client => Exchange.request url method headers (.value body)
  | .scripted _ =>
    let retort ← Process.take fun world =>
      let (retort, team) := world.team.retort
      (retort, { world.enter (.fetched url method headers body) with team })
    Process.pauseIfAny retort.seconds
    return retort.outcome

/-- Posts a payload to the chat service. -/
def post (adapter : Nat) (request : Http.Outgoing) (payload : Value) :
    Process World (Except Failure Http.Response) := do
  let time ← Process.clock
  let reply ← Process.take fun world =>
    let (reply, post) := world.post.chatReply adapter
    (reply, { world.enter (.posted request.url request.headers payload time) with post })
  Process.pauseIfAny ((reply.map Reply.seconds).getD 0.0)
  return Exchange.received request reply

/-- Enters a call of the mail adapter, and answers it. -/
def mail (call : Notification.Call) (outcome : Post → Except Failure Unit) :
    Process World (Except Failure Unit) :=
  Process.take fun world => (outcome world.post, world.enter (.mailed call))

def log (adapter : Nat) (message : Message) : Process World Unit :=
  Process.edit fun world =>
    { world with post := { world.post with console := world.post.console ++ [(adapter, message)] } }

/-- The answers to the calls of adapters. -/
def answer : (call : Notification.Call) → Process World (Notification.outside.Reply call)
  | .now => do
    return stampAt (← Process.clock)
  | .log adapter message => log adapter message
  | .fetch url headers body => fetch url "POST" headers body
  | .post adapter request payload => post adapter request payload
  | .append file text =>
    Process.take fun world =>
      let (outcome, post) := world.post.append file text
      (outcome, { world with post })
  | .connect host port => mail (.connect host port) Post.connect
  | .secure => mail .secure fun _ => .ok ()
  | .login user password => mail (.login user password) Post.login
  | .sendMail sender recipient text => mail (.sendMail sender recipient text) fun _ => .ok ()
  | .quit => Process.edit fun world => world.enter (.mailed .quit)

/-- Sends a message through the manager of notifications. -/
def send (message : Message) : Process World (Except Failure Notification.Receipt) := do
  let world ← Process.look
  Program.lower answer (world.post.manager.send message)

/-- Delivers a message through one adapter. -/
def deliver (adapter : Notification.Adapter) (message : Message) :
    Process World (Except Failure Notification.Receipt) :=
  Program.lower answer (adapter.deliver message)

end Errands

namespace Collaboration

/-- The name of a call to the data layer. -/
def storeName : Execution.Call → String
  | .find .. => "find"
  | .read .. => "find_by_id"
  | .create .. => "create"
  | .update .. => "update"
  | .delete .. => "delete"
  | _ => ""

def fieldsOf : Value → Fields
  | .obj fields => fields
  | _ => []

/-- The answer of a data layer that does not fail. -/
def stored (call : Execution.Call) (records : Records) : Value × Records :=
  match call with
  | .find entity selector => (.list (records.find entity selector), records)
  | .read entity id => (records.read entity id, records)
  | .create entity data => records.create entity (fieldsOf data)
  | .update entity id data => records.update entity id (fieldsOf data)
  | .delete entity id => (.null, records.delete entity id)
  | _ => (.null, records)

/-- Asks the data layer. -/
def store (call : Execution.Call) : Process World (Except Failure Value) :=
  Process.take fun world =>
    let (answer, team) := world.team.ofStore (storeName call) (stored call)
    (answer, { world.enter (.asked call) with team })

/-- Leaves a note with a collaborator that takes notes. -/
def note (call : Execution.Call) (recorder : Option Recorder) :
    Process World (Except Failure Value) := do
  Process.edit fun world => world.enter (.asked call)
  return (recorder.getD {}).outcome

/-- Tells of a changed record. -/
def report (news : EntityReport) : Process World (Except Failure Value) := do
  let now ← Process.clock
  match (← Process.look).team.sink with
  | .absent => return .ok .null
  | .recorded recorder => note (.report news) (some recorder)
  | .routed maxDepth =>
    let jobs ← Process.take fun world =>
      world.use now fun around => Routing.startOnReport around maxDepth news
    return jobs.map fun _ => .null

/-- Delivers a message. -/
def notify (message : Message) : Process World (Except Failure Value) := do
  match (← Process.look).team.notifier with
  | .absent => return .error (.serviceMissing (.str "Notification service"))
  | .recorded recorder => note (.notify message) (some recorder)
  | .managed => return (← Errands.send message).map fun _ => .null

/-- The outcome of a question that leaves the variables alone. -/
def outcome (call : Execution.Call) : Process World (Except Failure Value) := do
  match call with
  | .find .. | .read .. | .create .. | .update .. | .delete .. => store call
  | .report news => report news
  | .mail .. => note call (← Process.look).team.mail
  | .fetch url method headers body => Errands.fetch (.str url) method headers body
  | .notify message => notify message
  | .act .. => return .ok .null
  | .wait seconds =>
    Process.pause seconds
    return .ok .null

/-- Writes the context of a run back to its job. -/
def save (job : Option JobId) (context : Context) : Process World Unit :=
  match job with
  | none => .done ()
  | some id =>
    Process.edit fun world =>
      world.putContext id { context with bindings := .root context.bindings.base }

/-- The variables of a run with what its job holds now. -/
def load (job : Option JobId) (bindings : Variables) : Process World Variables := do
  let world ← Process.look
  match job.bind world.bindings with
  | some fields => return bindings.rebase fields
  | none => return bindings

/-- Calls an action of a plugin. -/
def act (job : Option JobId) (plugin action : String) (params : Value) (context : Context) :
    Process World Execution.Answer := do
  let effect ← Process.take fun world =>
    let effect := Actions.perform plugin action params context world.team.counters
    (effect, { world with team := { world.team with counters := effect.counters } })
  save job { context with bindings := effect.bindings }
  match effect.wait with
  | some seconds => Process.pause seconds
  | none => .done ()
  return ⟨effect.outcome, ← load job effect.bindings⟩

/-- The answer to a question of a run. -/
def answer (job : Option JobId) (question : Execution.Question) :
    Process World Execution.Answer := do
  match question.call with
  | .act plugin action params => act job plugin action params question.context
  | call =>
    save job question.context
    let outcome ← outcome call
    return ⟨outcome, ← load job question.context.bindings⟩

/-- Runs a workflow in a context. -/
def run (job : Option JobId) (workflow : Definition) (context : Context) :
    Process World (Execution.RunResult × Context) := do
  let world ← Process.look
  let (result, context) ← Program.lower (answer job)
    (Execution.runWorkflow world.team.collaborators workflow context)
  save job context
  return (result, context)

end Collaboration

end Orchestra.Rehearsal
