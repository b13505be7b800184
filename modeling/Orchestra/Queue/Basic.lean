import Orchestra.Queue.Config
import Orchestra.Queue.Event

/-!
The state of a job queue.

The queue knows the workflows and all jobs. A job waits in line, is running, waits for a delay to
pass, or has come to its end; the line, the running jobs and the delays are kept beside the records
of the jobs.
-/

namespace Orchestra

structure Queue (Time : Type) where
  config : QueueConfig
  /-- The workflows in the order in which their names were registered. -/
  workflows : List (String × Definition) := []
  /-- The jobs in the order of their numbers. -/
  jobs : List Job := []
  /-- The jobs in line, the next one first. -/
  pending : List JobId := []
  running : List JobId := []
  /-- The delayed jobs, and when their delay is over. -/
  delayed : List (JobId × Time) := []
  /-- The number of jobs that were ever created. -/
  issued : Nat := 0
  stopping : Bool := false

namespace Queue

variable {Time : Type}

def workflow? (queue : Queue Time) (name : String) : Option Definition :=
  queue.workflows.lookup name

def job? (queue : Queue Time) (id : JobId) : Option Job :=
  queue.jobs.find? fun job => job.id == id

/-- Changes the record of a job. -/
def edit (id : JobId) (change : Job → Job) (queue : Queue Time) : Queue Time :=
  { queue with jobs := queue.jobs.map fun job => if job.id == id then change job else job }

/-- Replaces the definition of a name in its place, or appends it. -/
def putWorkflow (name : String) (workflow : Definition) :
    List (String × Definition) → List (String × Definition)
  | [] => [(name, workflow)]
  | (other, old) :: rest =>
    if other == name then (other, workflow) :: rest
    else (other, old) :: putWorkflow name workflow rest

/-- Puts a job at the end of the line. -/
def append (id : JobId) (queue : Queue Time) : Queue Time :=
  { queue with pending := queue.pending ++ [id] }

/-- Frees the slot of a job. -/
def vacate (id : JobId) (queue : Queue Time) : Queue Time :=
  { queue with running := queue.running.filter (· != id) }

/-- Gives a job a slot. -/
def occupy (id : JobId) (queue : Queue Time) : Queue Time :=
  { queue with running := queue.running.insert id }

/-- Forgets the delay of a job. -/
def undelay (id : JobId) (queue : Queue Time) : Queue Time :=
  { queue with delayed := queue.delayed.filter fun entry => entry.1 != id }

/-- A slot is free. -/
def hasRoom (queue : Queue Time) : Bool :=
  (queue.running.length : Int) < queue.config.maxConcurrent

/-- How often a job of a workflow may be started. -/
def budget (queue : Queue Time) (workflow : String) : Int :=
  match (queue.workflow? workflow).bind Definition.retries with
  | some retries => retries
  | none => queue.config.maxRetries

/-- The jobs of a status and of a workflow, where these are asked for. -/
def select (queue : Queue Time) (status : Option Value) (workflow : Option String) :
    Except Failure (List Job) := do
  let chosen ←
    match status with
    | none => pure queue.jobs
    | some status =>
      if queue.jobs.isEmpty then pure []
      else do
        let status ← JobStatus.ofValue status
        pure (queue.jobs.filter fun job => job.status = status)
  return chosen.filter fun job => workflow.all (· == job.workflow)

/-- How many jobs are in each status, and how many jobs and workflows there are. -/
def stats (queue : Queue Time) : Fields :=
  JobStatus.all.map (fun status =>
    (status.name, .int (queue.jobs.countP fun job => job.status = status)))
  ++ [("total", .int queue.jobs.length), ("workflows", .int queue.workflows.length)]

end Queue

/-- What surrounds a queue during one operation: the clocks, the listeners, and whoever runs its
jobs and minds its delays. Listeners may use the queue while they are told of an event. -/
structure Surroundings (Time σ : Type) where
  stamp : Stamp
  /-- The clock that delays are measured by; none when nothing minds them. -/
  clock : Option Time
  /-- The point in time that lies some seconds after another. -/
  after : Time → Number → Except Failure Time
  /-- The queue starts the runs of its jobs itself. -/
  runsJobs : Bool
  hear : Event → Queue Time × σ → Queue Time × σ
  launch : JobId → Definition → σ → σ
  /-- Minds the delay of a job. -/
  mind : JobId → Time → σ → σ

/-- A queue together with the state of its surroundings. -/
abbrev Scene (Time σ : Type) := Queue Time × σ

namespace Scene

variable {Time σ : Type}

/-- Changes the queue alone. -/
def edit (change : Queue Time → Queue Time) (scene : Scene Time σ) : Scene Time σ :=
  (change scene.1, scene.2)

/-- Tells of a job as it is now. -/
def tell (around : Surroundings Time σ) (event : Job → Event) (id : JobId)
    (scene : Scene Time σ) : Scene Time σ :=
  match scene.1.job? id with
  | some job => around.hear (event job) scene
  | none => scene

end Scene

end Orchestra
