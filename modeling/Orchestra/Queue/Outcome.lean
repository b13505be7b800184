import Orchestra.Queue.Basic

/-!
Admission of jobs, outcomes of attempts, and delays that are over.

Jobs leave the line in order while a slot is free. A job whose workflow is gone, or that nothing can
run, fails when its turn comes and takes no slot.

The outcome of a cancelled job is dropped. A failed attempt is repeated after a delay as long as the
budget of its workflow allows it and the workflow is still registered.
-/

namespace Orchestra.Queue

variable {Time σ : Type}

def noLoop : String := "no running event loop"

/-- Fails a job that cannot be started. -/
def refuse (around : Surroundings Time σ) (id : JobId) (error : String)
    (scene : Scene Time σ) : Scene Time σ :=
  (scene.edit (edit id (·.refuse error around.stamp))).tell around .failed id

/-- Starts an attempt of a job. -/
def start (around : Surroundings Time σ) (id : JobId) (workflow : Definition)
    (scene : Scene Time σ) : Scene Time σ :=
  let scene : Scene Time σ :=
    (scene.1, if around.runsJobs then around.launch id workflow scene.2 else scene.2)
  let scene := scene.edit fun queue => (queue.edit id (·.start around.stamp)).occupy id
  (scene.tell around .started id).tell around (.execute · workflow) id

/-- The turn of a job that has left the line. -/
def admitJob (around : Surroundings Time σ) (id : JobId) (scene : Scene Time σ) : Scene Time σ :=
  match scene.1.job? id with
  | none => scene
  | some job =>
    if job.status ≠ .pending then scene
    else
      match scene.1.workflow? job.workflow with
      | none => refuse around id (Failure.workflowNotFound (.str job.workflow)).message scene
      | some workflow =>
        if around.runsJobs && around.clock.isNone then
          refuse around id ("Cannot schedule job: " ++ noLoop) scene
        else start around id workflow scene

/-- Admits at most some jobs from the line. -/
def admitUpTo (around : Surroundings Time σ) : Nat → Scene Time σ → Scene Time σ
  | 0, scene => scene
  | limit + 1, scene =>
    match scene.1.pending with
    | [] => scene
    | id :: rest =>
      if scene.1.stopping || !scene.1.hasRoom then scene
      else
        admitUpTo around limit
          (admitJob around id (scene.edit fun queue => { queue with pending := rest }))

/-- Admits jobs from the line while a slot is free. -/
def admitAll (around : Surroundings Time σ) (scene : Scene Time σ) : Scene Time σ :=
  admitUpTo around scene.1.pending.length scene

/-- Frees the slot of a job whose attempt has ended; the job, where its outcome counts. -/
def release (around : Surroundings Time σ) (id : JobId) (scene : Scene Time σ) :
    Option Job × Scene Time σ :=
  match scene.1.job? id with
  | none => (none, scene)
  | some job =>
    let scene' := scene.edit (vacate id)
    if job.status = .cancelled then
      let scene' := scene'.edit <| edit id fun job =>
        { job with completedAt := job.completedAt.or (some around.stamp) }
      (none, admitAll around scene')
    else if job.status = .running && scene.1.running.contains id then (some job, scene')
    else (none, scene')

/-- Reports that an attempt succeeded. -/
def complete (around : Surroundings Time σ) (id : JobId) (result : Value)
    (scene : Scene Time σ) : Scene Time σ :=
  match release around id scene with
  | (none, scene) => scene
  | (some _, scene) =>
    admitAll around
      ((scene.edit (edit id (·.succeed result around.stamp))).tell around .completed id)

/-- The seconds between two attempts, after the given number of them. -/
def retryDelay (config : QueueConfig) (attempts : Nat) : Except Failure Number :=
  match config.strategy.delay (.float 0.5) (.int attempts) with
  | .ok seconds => .ok (seconds.number?.getD (.int 0))
  | .error fault => .error (.operand fault)

/-- Makes a job wait for the delay after its last attempt. -/
def delay (around : Surroundings Time σ) (job : Job) (scene : Scene Time σ) :
    Except Failure Unit × Scene Time σ :=
  match retryDelay scene.1.config job.attempts with
  | .error failure => (.error failure, scene)
  | .ok seconds =>
    let scene := scene.edit (edit job.id fun job => { job with status := .pending })
    match around.clock with
    | none => (.error (.runtime noLoop), scene)
    | some now =>
      match around.after now seconds with
      | .error failure => (.error failure, scene)
      | .ok due =>
        (.ok (), ({ scene.1 with delayed := scene.1.delayed ++ [(job.id, due)] },
          around.mind job.id due scene.2))

/-- Reports that an attempt failed. -/
def fail (around : Surroundings Time σ) (id : JobId) (error : Option String)
    (scene : Scene Time σ) : Except Failure Unit × Scene Time σ :=
  match release around id scene with
  | (none, scene) => (.ok (), scene)
  | (some job, scene) =>
    let scene := scene.edit <| edit id fun job =>
      { job with error := some (error.getD "Unknown error") }
    if job.attempts < scene.1.budget job.workflow && (scene.1.workflow? job.workflow).isSome then
      match delay around job scene with
      | (.error failure, scene) => (.error failure, scene)
      | (.ok (), scene) => (.ok (), admitAll around scene)
    else
      (.ok (), admitAll around
        ((scene.edit (edit id (·.giveUp around.stamp))).tell around .failed id))

/-- The delay of a job is over: it goes to the end of the line. -/
def wake (around : Surroundings Time σ) (id : JobId) (scene : Scene Time σ) : Scene Time σ :=
  if scene.1.delayed.any (·.1 == id) then
    let scene := scene.edit (undelay id)
    match scene.1.job? id with
    | none => scene
    | some job =>
      if job.status ≠ .pending then scene
      else admitAll around ((scene.edit (append id)).tell around .readmitted id)
  else scene

end Orchestra.Queue
