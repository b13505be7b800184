import Orchestra.Notification.Manager
import Orchestra.Queue.Control
import Orchestra.Rehearsal.Audience
import Orchestra.Rehearsal.Files
import Orchestra.Rehearsal.Process
import Orchestra.Rehearsal.Team
import Orchestra.Rehearsal.Web

/-!
The world of a rehearsal: everything that its processes share. Among it is what adapters meet outside:
a scripted chat service, a log, files, and a mail server that may refuse them.

All calls that leave the library are entered in a transcript, in order. Work that is to be done later
is left as a task, since only the stage knows the timeline.
-/

namespace Orchestra.Rehearsal

/-- How a mail server refuses. -/
inductive MailFault where
  | unreachable (reason : String)
  | badLogin (reason : String)

structure Post where
  manager : Notification.Manager := {}
  /-- The replies that every chat adapter starts with. -/
  chat : List Reply := []
  /-- The replies that are left for the chat adapters in use. -/
  chats : List (Nat × List Reply) := []
  /-- The messages in the log, with the adapters that wrote them. -/
  console : List (Nat × Message) := []
  files : Files := {}
  mailFault : Option MailFault := none

namespace Post

/-- The chat service as long as nothing else is said: it accepts every message. -/
def acceptAll : List Reply :=
  [⟨0.0, Reply.whole 200 none [("content-type", "application/json")]
    (Http.utf8Bytes (Json.print (.obj [("ok", .bool true)])))⟩]

def putScript (adapter : Nat) (script : List Reply) : List (Nat × List Reply) →
    List (Nat × List Reply)
  | [] => [(adapter, script)]
  | (other, old) :: rest =>
    if other == adapter then (other, script) :: rest else (other, old) :: putScript adapter script rest

/-- The next reply of the chat service to an adapter. -/
def chatReply (post : Post) (adapter : Nat) : Option Reply × Post :=
  let (reply, script) := Script.next ((post.chats.lookup adapter).getD post.chat)
  (reply, { post with chats := putScript adapter script post.chats })

/-- The messages that an adapter wrote into the log. -/
def logged (post : Post) (adapter : Nat) : List Message :=
  (post.console.filter (·.1 == adapter)).map Prod.snd

def append (post : Post) (file text : String) : Except Failure Unit × Post :=
  let (outcome, files) := ((Files.append file text).run).run post.files
  (outcome, { post with files })

/-- The answer of the mail server to a call. -/
def connect (post : Post) : Except Failure Unit :=
  match post.mailFault with
  | some (.unreachable reason) => .error (.system reason)
  | _ => .ok ()

def login (post : Post) : Except Failure Unit :=
  match post.mailFault with
  | some (.badLogin reason) => .error (.foreign .smtp reason)
  | _ => .ok ()

end Post

/-- A call that left the library. -/
inductive Entry where
  | asked (call : Execution.Call)
  | mailed (call : Notification.Call)
  | fetched (url : Value) (method : String) (headers body : Value)
  /-- A request of the HTTP client, and when it was sent. -/
  | sent (request : Http.Outgoing) (time : Float)
  /-- A payload for the chat service. -/
  | posted (url : String) (headers : List (String × String)) (payload : Value) (time : Float)

/-- What a scripted attempt of a job comes to, after some seconds. -/
structure Plan where
  seconds : Float := 0.0
  outcome : Except (Option String) Value := .ok .null

/-- Who runs the jobs of the queue. -/
inductive Runner where
  /-- Somebody outside, who reports the outcomes. -/
  | outside
  | scripted (plans : Scripts Plan)
  /-- The workflows themselves. -/
  | workflows

/-- Work to be done later. -/
inductive Task where
  | attempt (job : JobId) (workflow : Definition)
  | wake (job : JobId) (due : Float)
  | tell (listener : String) (event : Event)

/-- What a process came to. -/
inductive Product where
  | value (outcome : Except Failure Value)
  | receipt (outcome : Except Failure Notification.Receipt)
  | run (result : Execution.RunResult) (context : Context)
  | flag (answer : Bool)

structure World where
  transcript : List Entry := []
  web : Web := default
  post : Post := {}
  team : Team := {}
  queue : Queue Float := { config := .ofParts none none none }
  /-- The jobs that the queue has dropped. -/
  dropped : List Job := []
  /-- Why running jobs cannot be counted up to the limit of the queue. -/
  limitFault : Option Failure := none
  /-- Why attempts cannot be counted up to the budget of the queue. -/
  budgetFault : Option Failure := none
  runner : Runner := .outside
  /-- Work can be done later. -/
  timed : Bool := true
  audience : Audience := {}
  tasks : List Task := []
  /-- The products of the processes that were numbered, and how many these are. -/
  products : List (Nat × Product) := []
  numbered : Nat := 0

instance : Inhabited World := ⟨{}⟩

namespace World

def enter (world : World) (entry : Entry) : World :=
  { world with transcript := world.transcript ++ [entry] }

/-- Closes the HTTP client. -/
def closeWeb (world : World) : World :=
  { world with web := world.web.close }

def later (world : World) (task : Task) : World :=
  { world with tasks := world.tasks ++ [task] }

def product? (world : World) (number : Nat) : Option Product :=
  world.products.lookup number

def finish (world : World) (number : Nat) (product : Product) : World :=
  { world with products := world.products ++ [(number, product)] }

/-- The record of a job, also when the queue has dropped it. -/
def job? (world : World) (id : JobId) : Option Job :=
  (world.queue.job? id).or (world.dropped.find? fun job => job.id == id)

/-- Replaces the context of a job, also when the queue has dropped it. -/
def putContext (world : World) (id : JobId) (context : Context) : World :=
  let change (job : Job) : Job := { job with context }
  { world with
    queue := world.queue.edit id change
    dropped := world.dropped.map fun job => if job.id == id then change job else job }

/-- The root variables that the context of a job holds now. -/
def bindings (world : World) (id : JobId) : Option Fields :=
  (world.job? id).map fun job => job.context.bindings.base

end World

end Orchestra.Rehearsal
