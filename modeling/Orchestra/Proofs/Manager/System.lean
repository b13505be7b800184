import Orchestra.Proofs.Queue.Operation
import Orchestra.Proofs.Routing.Depth
import Orchestra.Rehearsal.Session

/-!
A manager at work: a queue that runs its jobs itself, and attempts whose changes of records start
further jobs.

Everything that may happen next is one act: somebody outside asks for something, an attempt begins,
gets an answer or ends, or a delay is over. The acts come in any order and at any time, and what the
collaborators answer is open. Only the answer to a report is not: the manager looks for workflows
that listen for the change.
-/

namespace Orchestra

/-- What is left of a run of a workflow. -/
abbrev Running := Program Execution.conversation (Execution.RunResult × Context)

/-- The context that a run holds at its next question or at its end. -/
def Running.held : Running → Context
  | .done (_, context) => context
  | .ask (question : Execution.Question) _ => question.context

/-- An attempt of a job: it was launched, or it is underway. -/
inductive Attempt where
  | launched (job : JobId) (workflow : Definition)
  | underway (job : JobId) (rest : Running)

def Attempt.job : Attempt → JobId
  | .launched job _ | .underway job _ => job

/-- The clocks at the time of an act. -/
structure Moment (Time : Type) where
  stamp : Stamp
  clock : Option Time
  after : Time → Number → Except Failure Time

/-- Nobody listens, and the attempts that the queue launches are kept until they begin. -/
def Moment.around {Time : Type} (moment : Moment Time) : Surroundings Time (List Attempt) where
  stamp := moment.stamp
  clock := moment.clock
  after := moment.after
  runsJobs := true
  hear _ scene := scene
  launch id workflow attempts := attempts ++ [.launched id workflow]
  mind _ _ attempts := attempts

/-- What somebody outside may ask for. -/
inductive Request where
  | use (operation : Queue.Operation)
  | start (name data : Value)
  | change (news : Routing.Change) (cascade : Option CascadeInfo)
  | deliver (delivery : Routing.Delivery)
  | schedule (expression : Value)

namespace Request

variable {Time σ : Type}

def perform (around : Surroundings Time σ) (maxDepth : Int) :
    Request → Scene Time σ → Scene Time σ
  | .use operation, scene => operation.apply around scene
  | .start name data, scene => (Routing.start around name data scene).2
  | .change news cascade, scene =>
    (Routing.startOnChange around (.int maxDepth) news cascade scene).2
  | .deliver delivery, scene => (Routing.startOnDelivery around delivery scene).2
  | .schedule expression, scene => (Routing.startOnSchedule around expression scene).2

/-- The depth of a cascade is declared a whole number. One that comes from outside is no
floating-point number: adding one to such a number may leave it as it is. -/
def Exact : Request → Prop
  | .use (.enqueue _ context) => context.cascade.depth.Exact
  | .change _ (some cascade) => cascade.depth.Exact
  | _ => True

end Request

/-- A queue, the jobs it has dropped, and the attempts that have not ended. -/
structure Manager (Time : Type) where
  queue : Queue Time
  dropped : List Job := []
  attempts : List Attempt := []

namespace Manager

variable {Time : Type}

/-- A manager that was just made. -/
def fresh (config : QueueConfig) : Manager Time :=
  { queue := .empty config }

/-- The record of a job, also when the queue has dropped it. -/
def job? (manager : Manager Time) (id : JobId) : Option Job :=
  (manager.queue.job? id).or (manager.dropped.find? fun job => job.id == id)

/-- The jobs of a queue that another one lacks. -/
def missing (before after : Queue Time) : List Job :=
  before.jobs.filter fun job => (after.job? job.id).isNone

/-- Uses the queue; jobs that it drops are kept aside. -/
def use {α : Type} (moment : Moment Time)
    (operation : Surroundings Time (List Attempt) → Scene Time (List Attempt) →
      α × Scene Time (List Attempt)) (manager : Manager Time) : α × Manager Time :=
  let (answer, queue, attempts) := operation moment.around (manager.queue, manager.attempts)
  (answer, { queue, attempts, dropped := manager.dropped ++ missing manager.queue queue })

/-- Uses the queue where nothing is answered. -/
def run (moment : Moment Time)
    (operation : Surroundings Time (List Attempt) → Scene Time (List Attempt) →
      Scene Time (List Attempt)) (manager : Manager Time) : Manager Time :=
  (manager.use moment fun around scene => ((), operation around scene)).2

/-- Replaces the context of a job, also when the queue has dropped it. -/
def putContext (id : JobId) (context : Context) (manager : Manager Time) : Manager Time :=
  let change (job : Job) : Job := { job with context }
  { manager with
    queue := manager.queue.edit id change
    dropped := manager.dropped.map fun job => if job.id == id then change job else job }

/-- A run of a job goes on up to its next question, or to its end, and writes its context back to
the job. -/
def carryOn (id : JobId) (rest : Running) (manager : Manager Time) : Manager Time :=
  ({ manager with attempts := manager.attempts ++ [.underway id rest] } : Manager Time).putContext
    id { rest.held with bindings := .root rest.held.bindings.base }

/-- Reports the outcome of an attempt to the queue. -/
def report (id : JobId) (outcome : Except (Option String) Value)
    (around : Surroundings Time (List Attempt)) (scene : Scene Time (List Attempt)) :
    Scene Time (List Attempt) :=
  match outcome with
  | .ok result => Queue.complete around id result scene
  | .error error => (Queue.fail around id error scene).2

/-- The kinds of acts. -/
inductive Act where
  | asked (request : Request)
  | begun (job : JobId)
  | answered (job : JobId)
  | ended (job : JobId)
  | woken (job : JobId)

/-- What may happen to a manager with some collaborators and a limit to the depth of cascades. -/
inductive Happens (collaborators : Execution.Collaborators) (maxDepth : Int) :
    Manager Time → Act → Manager Time → Prop where
  | asked {manager} (moment : Moment Time) (request : Request) (exact : request.Exact) :
      Happens collaborators maxDepth manager (.asked request)
        (manager.run moment fun around => request.perform around maxDepth)
  | begun {queue dropped first id workflow last} {job : Job}
      (found : job? ⟨queue, dropped, first ++ .launched id workflow :: last⟩ id = some job) :
      Happens collaborators maxDepth ⟨queue, dropped, first ++ .launched id workflow :: last⟩
        (.begun id)
        (carryOn id (Execution.runWorkflow collaborators workflow job.context)
          ⟨queue, dropped, first ++ last⟩)
  /-- A collaborator answers, with a value or a failure. A plugin's action may change the variables
  of its run and nothing else. -/
  | answered {queue dropped first id last} {question : Execution.Question}
      {next : Execution.Answer → Running} (foreign : ∀ news, question.call ≠ .report news)
      (answer : Execution.Answer) :
      Happens collaborators maxDepth
        ⟨queue, dropped, first ++ .underway id (.ask question next) :: last⟩ (.answered id)
        (carryOn id (next answer) ⟨queue, dropped, first ++ last⟩)
  /-- The manager hears of a change and starts the workflows that listen for it. -/
  | reported {queue dropped first id last context news} {next : Execution.Answer → Running}
      (moment : Moment Time) (bindings : Variables) {jobs manager}
      (heard : use moment (fun around => Routing.startOnReport around (.int maxDepth) news)
        ⟨queue, dropped, first ++ last⟩ = (jobs, manager)) :
      Happens collaborators maxDepth
        ⟨queue, dropped, first ++ .underway id (.ask ⟨context, .report news⟩ next) :: last⟩
        (.answered id)
        (carryOn id (next ⟨jobs.map fun _ => .null, bindings⟩) manager)
  | ended {queue dropped first id last result context} (moment : Moment Time) :
      Happens collaborators maxDepth
        ⟨queue, dropped, first ++ .underway id (.done (result, context)) :: last⟩ (.ended id)
        (run moment (report id (Rehearsal.Task.outcomeOf result)) ⟨queue, dropped, first ++ last⟩)
  | woken {manager id} (moment : Moment Time) (armed : manager.queue.delayed.any (·.1 == id)) :
      Happens collaborators maxDepth manager (.woken id)
        (manager.run moment fun around => Queue.wake around id)

/-- A manager that a run from the start may come to. -/
inductive Reaches (collaborators : Execution.Collaborators) (maxDepth : Int)
    (config : QueueConfig) : Manager Time → Prop where
  | fresh : Reaches collaborators maxDepth config (fresh config)
  | act {before after act} (reaches : Reaches collaborators maxDepth config before)
      (happens : Happens collaborators maxDepth before act after) :
      Reaches collaborators maxDepth config after

end Manager

end Orchestra
