import Orchestra.Rehearsal.Collaboration

/-!
A session: the world of a rehearsal on its timeline, and what users of the library do in it.

What a user does himself happens at once; the work that follows from it waits until time is let
pass. A process that a user waits for passes as much time as it needs.
-/

namespace Orchestra.Rehearsal

namespace Runner

/-- The next plan for a workflow. -/
def plan (runner : Runner) (workflow : String) : Plan × Runner :=
  match runner with
  | .scripted plans =>
    let (plan, plans) := plans.next workflow
    (plan.getD {}, .scripted plans)
  | runner => ({}, runner)

end Runner

namespace Task

/-- Reports the outcome of an attempt to the queue. -/
def report (id : JobId) (outcome : Except (Option String) Value) : Process World Unit := do
  let now ← Process.clock
  Process.edit fun world =>
    match outcome with
    | .ok result => world.run now fun around => Queue.complete around id result
    | .error error => (world.fail now id error).2

/-- The outcome of a run as it is reported. -/
def outcomeOf (result : Execution.RunResult) : Except (Option String) Value :=
  match result.outcome with
  | .ok fields => .ok (.obj fields)
  | .error failure => .error (some failure.wording)

/-- One attempt of a job. -/
def runAttempt (id : JobId) (workflow : Definition) : Process World Unit := do
  let world ← Process.look
  match world.runner with
  | .outside => return ()
  | .scripted _ =>
    let plan ← Process.take fun world =>
      let (plan, runner) := world.runner.plan workflow.name
      (plan, { world with runner })
    Process.pauseIfAny plan.seconds
    report id plan.outcome
  | .workflows =>
    let context := ((world.job? id).map Job.context).getD {}
    let (result, _) ← Collaboration.run (some id) workflow context
    report id (outcomeOf result)

/-- The delay of a job is over. -/
def endDelay (id : JobId) : Process World Unit := do
  let now ← Process.clock
  Process.edit fun world => world.run now fun around => Queue.wake around id

/-- A late listener takes note. -/
def hearLate (listener : String) (event : Event) : Process World Unit :=
  Process.edit fun world =>
    { world with audience := world.audience.note listener (event.refreshed world.job?) }

/-- The process of a task, and when it is due. -/
def order : Task → Order World
  | .attempt id workflow => ⟨none, runAttempt id workflow⟩
  | .wake id due => ⟨some due, endDelay id⟩
  | .tell listener event => ⟨none, hearLate listener event⟩

end Task

/-- The tasks of a world as orders. -/
def World.orders (world : World) : List (Order World) × World :=
  (world.tasks.map Task.order, { world with tasks := [] })

/-- Waits until no job is running, or until a point in time. After `limit` looks the wait is broken
off, and there is no answer. -/
def waitForJobs (deadline poll : Float) : Nat → Process World (Option Bool)
  | 0 => return none
  | limit + 1 => do
    let world ← Process.look
    let now ← Process.clock
    if !world.queue.running.isEmpty && now < deadline then
      Process.pause poll
      waitForJobs deadline poll limit
    else return some world.queue.running.isEmpty

/-- Stops the queue and waits for its jobs; true when all of them came to their end. -/
def shutDown (timeout poll : Float) : Process World (Option Bool) := do
  Process.edit fun world => { world with queue := world.queue.stop }
  let now ← Process.clock
  waitForJobs (now + timeout) poll Stage.patience

abbrev Session := Stage World

namespace Session

def ofWorld (world : World) : Session :=
  { shared := world }

/-- Changes the world at once. -/
def edit (session : Session) (change : World → World) : Session :=
  Stage.edit World.orders change session

/-- Uses the queue at once. -/
def use {α : Type} (session : Session)
    (operation : Surroundings Float World → Scene Float World → α × Scene Float World) :
    α × Session :=
  let (answer, world) := session.shared.use session.now operation
  (answer, session.edit fun _ => world)

/-- Puts a new job into the line at once. -/
def enqueue (session : Session) (name : Value) (context : Context) :
    Except Failure JobId × Session :=
  let (result, world) := session.shared.enqueue session.now name context
  (result, session.edit fun _ => world)

/-- Reports at once that an attempt failed. -/
def fail (session : Session) (id : JobId) (error : Option String) :
    Except Failure Unit × Session :=
  let (result, world) := session.shared.fail session.now id error
  (result, session.edit fun _ => world)

/-- A process that leaves its product under a number, if it has one. -/
def numbered (process : Process World (Option Product)) (number : Nat) : Process World Unit := do
  match ← process with
  | some product => Process.edit fun world => world.finish number product
  | none => return ()

/-- Starts a process and does all work that is ready; the number of the process. -/
def begin (session : Session) (process : Process World Product) : Nat × Session :=
  let number := session.shared.numbered
  let session := session.edit fun world => { world with numbered := number + 1 }
  (number,
    Stage.settle World.orders { session with
      timeline := session.timeline.soon (.go (numbered (process.map some) number)) })

/-- Starts a process and lets time pass until it has its product. -/
def await (session : Session) (process : Process World (Option Product)) :
    Option Product × Session :=
  let number := session.shared.numbered
  let session := session.edit fun world => { world with numbered := number + 1 }
  let session := Stage.complete World.orders (numbered process number)
    (fun world => (world.product? number).isSome) session
  (session.shared.product? number, session)

/-- Lets some seconds pass. -/
def advance (session : Session) (seconds : Float) : Session :=
  Stage.advance World.orders seconds session

/-- Runs a workflow by itself. -/
def runWorkflow (session : Session) (workflow : Definition) (context : Context) :
    Option Product × Session :=
  session.await do
    let (result, context) ← Collaboration.run none workflow context
    return some (.run result context)

/-- The process of a request through the HTTP client; nothing but a text names a method. -/
def requesting (url method headers : Value) (body : Http.Body) : Process World Product := do
  match method with
  | .str method => return .value (← Exchange.request url method headers body)
  | method => return .value (.error (.noAttribute method "upper"))

/-- Sends a request and waits for its outcome. -/
def request (session : Session) (url method headers : Value) (body : Http.Body) :
    Option Product × Session :=
  session.await ((requesting url method headers body).map some)

/-- Starts a request; its number. -/
def beginRequest (session : Session) (url method headers : Value) (body : Http.Body) :
    Nat × Session :=
  session.begin (requesting url method headers body)

/-- Sends a message. -/
def send (session : Session) (message : Message) : Option Product × Session :=
  session.await do
    return some (.receipt (← Errands.send message))

/-- Delivers a message through one adapter. -/
def deliver (session : Session) (adapter : Notification.Adapter) (message : Message) :
    Option Product × Session :=
  session.await do
    return some (.receipt (← Errands.deliver adapter message))

/-- Stops the queue and waits for its jobs. -/
def shutDown (session : Session) (timeout poll : Float) : Option Product × Session :=
  session.await do
    return (← Rehearsal.shutDown timeout poll).map Product.flag

end Session

end Orchestra.Rehearsal
