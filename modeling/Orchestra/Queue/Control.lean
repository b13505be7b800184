import Orchestra.Queue.Outcome
import Orchestra.Workflow.Reader

/-!
What users of a queue do: register workflows, queue jobs, cancel and repeat them, clean up and stop.
-/

namespace Orchestra.Queue

variable {Time σ : Type}

/-- Registers a workflow, or replaces the one of its name. -/
def register (around : Surroundings Time σ) (workflow : Definition) (scene : Scene Time σ) :
    Except Failure Definition × Scene Time σ :=
  if workflow.name == "" then (.error (.definition "Workflow must have a name"), scene)
  else
    (.ok workflow, around.hear (.registered workflow) (scene.edit fun queue =>
      { queue with workflows := putWorkflow workflow.name workflow queue.workflows }))

/-- Registers the workflow that data describe. -/
def registerValue (around : Surroundings Time σ) (data : Value) (scene : Scene Time σ) :
    Except Failure Definition × Scene Time σ :=
  match data with
  | .obj _ =>
    match Definition.ofValue data with
    | .ok workflow => register around workflow scene
    | .error failure => (.error failure, scene)
  | value => (.error (.noAttribute value "name"), scene)

/-- Removes a workflow; false when there is none of the name. -/
def unregister (around : Surroundings Time σ) (name : String) (scene : Scene Time σ) :
    Bool × Scene Time σ :=
  match scene.1.workflow? name with
  | none => (false, scene)
  | some workflow =>
    (true, around.hear (.unregistered workflow) (scene.edit fun queue =>
      { queue with workflows := queue.workflows.filter fun entry => entry.1 != name }))

/-- Puts a new job of a workflow into the line. -/
def enqueue (around : Surroundings Time σ) (name : String) (context : Context)
    (scene : Scene Time σ) : Except Failure JobId × Scene Time σ :=
  if scene.1.stopping then (.error (.queueShutdown "Workflow queue is shutting down"), scene)
  else
    match scene.1.workflow? name with
    | none => (.error (.workflowNotFound (.str name)), scene)
    | some workflow =>
      if !workflow.enabled then (.error (.workflowDisabled (.str name)), scene)
      else
        let id := scene.1.issued
        let job : Job := { id, workflow := name, context, createdAt := around.stamp }
        let scene := scene.edit fun queue =>
          { queue with
            jobs := queue.jobs ++ [job]
            pending := queue.pending ++ [id]
            issued := id + 1 }
        (.ok id, admitAll around (scene.tell around .enqueued id))

/-- Puts a new job into the line of the workflow that a value names; nothing but a text names one. -/
def enqueueValue (around : Surroundings Time σ) (name : Value) (context : Context)
    (scene : Scene Time σ) : Except Failure JobId × Scene Time σ :=
  match name with
  | .str name => enqueue around name context scene
  | name =>
    if scene.1.stopping then (.error (.queueShutdown "Workflow queue is shutting down"), scene)
    else
      (match Failure.requireKey name with
        | .error failure => .error failure
        | .ok () => .error (.workflowNotFound name), scene)

/-- Cancels a job that has not come to its end; false for any other. A running job runs on, and its
outcome will be dropped. -/
def cancel (around : Surroundings Time σ) (id : JobId) (scene : Scene Time σ) :
    Bool × Scene Time σ :=
  match scene.1.job? id with
  | none => (false, scene)
  | some job =>
    match job.status with
    | .running =>
      (true, (scene.edit (edit id fun job => { job with status := .cancelled })).tell around
        .cancelled id)
    | .pending =>
      let scene := scene.edit fun queue =>
        let queue := queue.edit id fun job =>
          { job with status := .cancelled, completedAt := some around.stamp }
        ({ queue with pending := queue.pending.erase id }).undelay id
      (true, scene.tell around .cancelled id)
    | .completed | .failed | .cancelled => (false, scene)

/-- Queues a failed job again with all its attempts; false for any other. -/
def retry (around : Surroundings Time σ) (id : JobId) (scene : Scene Time σ) :
    Except Failure Bool × Scene Time σ :=
  match scene.1.job? id with
  | none => (.ok false, scene)
  | some job =>
    if job.status ≠ .failed then (.ok false, scene)
    else if scene.1.stopping then
      (.error (.queueShutdown "Workflow queue is shutting down"), scene)
    else
      let scene := scene.edit fun queue => (queue.edit id Job.renew).append id
      (.ok true, admitAll around (scene.tell around .retried id))

/-- The job came to its end before a point in time, given in microseconds. -/
def isStale (cutoff : Int) (job : Job) : Bool :=
  job.status.isTerminal && job.completedAt.any fun stamp => stamp * 1000 < cutoff

/-- The jobs of a queue that came to their end before a point in time are dropped; how many these
are. -/
def dropStale (around : Surroundings Time σ) (cutoff : Int) (scene : Scene Time σ) :
    Nat × Scene Time σ :=
  let stale := scene.1.jobs.countP (isStale cutoff)
  let scene := scene.edit fun queue =>
    { queue with jobs := queue.jobs.filter fun job => !isStale cutoff job }
  (stale, if stale = 0 then scene else around.hear (.cleaned stale) scene)

/-- The point in time that lies some seconds back, in microseconds. -/
def cutoff (stamp : Stamp) (age : Number) : Except Failure Int :=
  match Calendar.span age with
  | .error .notANumber => .error (.value Calendar.SpanError.notANumber.message)
  | .error error => .error (.foreign .overflow error.message)
  | .ok span =>
    let point := stamp * 1000 - span
    if Calendar.isInCalendar point then .ok point
    else .error (.foreign .overflow "date value out of range")

/-- Drops the jobs that came to their end more than some seconds ago; how many these are. -/
def cleanup (around : Surroundings Time σ) (age : Value) (scene : Scene Time σ) :
    Except Failure Nat × Scene Time σ :=
  match age.number? with
  | none =>
    (.error (.type ("unsupported type for timedelta seconds component: " ++ age.kindName)), scene)
  | some age =>
    match cutoff around.stamp age with
    | .error failure => (.error failure, scene)
    | .ok cutoff =>
      let (count, scene) := dropStale around cutoff scene
      (.ok count, scene)

/-- Stops admission and forgets all delays; running jobs run on. -/
def stop (queue : Queue Time) : Queue Time :=
  { queue with stopping := true, delayed := [] }

end Orchestra.Queue
