import Orchestra.Proofs.Queue.Card
import Orchestra.Proofs.Queue.Operation

/-!
What can happen to a queue at one point of an operation.

Every operation is a sequence of moves. A move changes the queue once and sends the signals that go
with the change, so that an invariant has to be checked for each kind of move only.
-/

namespace Orchestra

variable {Time σ : Type}

/-- What a queue lets its surroundings know. -/
inductive Signal (Time : Type) where
  | told (event : Event)
  | launched (job : JobId) (workflow : Definition)
  | minded (job : JobId) (due : Time)

/-- The state of the surroundings after a signal. -/
def Surroundings.receive (around : Surroundings Time σ) (queue : Queue Time) (state : σ) :
    Signal Time → σ
  | .told event => (around.hear event (queue, state)).2
  | .launched id workflow => around.launch id workflow state
  | .minded id due => around.mind id due state

/-- The same surroundings with other listeners. -/
def Surroundings.heardBy (around : Surroundings Time σ)
    (hear : Event → Scene Time σ → Scene Time σ) : Surroundings Time σ :=
  { around with hear }

theorem Surroundings.Quiet.hear_eq {around : Surroundings Time σ} (quiet : around.Quiet)
    (event : Event) (queue : Queue Time) (state : σ) :
    around.hear event (queue, state) = (queue, around.receive queue state (.told event)) :=
  Prod.ext (quiet event queue state) rfl

namespace Queue

/-- The operation reports the outcome of an attempt of a job. -/
def Operation.Reports (id : JobId) : Operation → Prop
  | .complete other _ | .fail other _ => other = id
  | _ => False

/-- The operation registers a workflow. -/
def Operation.Registers (workflow : Definition) : Operation → Prop
  | .register other => other = workflow
  | .registerValue data => Definition.ofValue data = .ok workflow
  | _ => False

/-- The job that is made when a workflow is put into the line. -/
def newJob (queue : Queue Time) (workflow : String) (context : Context) (stamp : Stamp) : Job :=
  { id := queue.issued, workflow, context, createdAt := stamp }

/-- A job that is cancelled before an attempt of it is under way. -/
def callOff (stamp : Stamp) (job : Job) : Job :=
  { job with status := .cancelled, completedAt := some stamp }

/-- The outcome of a cancelled job is dropped, and only its end is noted. -/
def noteEnd (stamp : Stamp) (job : Job) : Job :=
  { job with completedAt := job.completedAt.or (some stamp) }

/-- A job whose last attempt ended with an error. -/
def noteError (error : Option String) (job : Job) : Job :=
  { job with error := some (error.getD "Unknown error") }

/-- A job that is to be started again. -/
def putOff (job : Job) : Job :=
  { job with status := .pending }

/-- One change of a queue during an operation, and the signals that are sent after it. -/
inductive Move (around : Surroundings Time σ) :
    Operation → Queue Time → List (Signal Time) → Queue Time → Prop where
  | registered {operation} {queue : Queue Time} (workflow : Definition)
      (registers : operation.Registers workflow) :
      Move around operation queue [.told (.registered workflow)]
        { queue with workflows := putWorkflow workflow.name workflow queue.workflows }
  | unregistered {operation} {queue : Queue Time} {name workflow}
      (known : queue.workflow? name = some workflow) :
      Move around operation queue [.told (.unregistered workflow)]
        { queue with workflows := queue.workflows.filter fun entry => entry.1 != name }
  | enqueued {operation} {queue : Queue Time} {name context workflow}
      (going : queue.stopping = false) (known : queue.workflow? name = some workflow) :
      Move around operation queue [.told (.enqueued (queue.newJob name context around.stamp))]
        { queue with
          jobs := queue.jobs ++ [queue.newJob name context around.stamp]
          pending := queue.pending ++ [queue.issued]
          issued := queue.issued + 1 }
  | started {operation} {queue : Queue Time} {id rest workflow} {job : Job}
      (line : queue.pending = id :: rest) (room : queue.hasRoom)
      (listed : queue.job? id = some job) (waiting : job.status = .pending)
      (known : queue.workflow? job.workflow = some workflow)
      (timed : around.runsJobs → around.clock.isSome) (going : queue.stopping = false) :
      Move around operation queue
        ((if around.runsJobs then [.launched id workflow] else []) ++
          [.told (.started (job.start around.stamp)),
            .told (.execute (job.start around.stamp) workflow)])
        ((edit id (·.start around.stamp) { queue with pending := rest }).occupy id)
  | refused {operation} {queue : Queue Time} {id rest error} {job : Job}
      (line : queue.pending = id :: rest) (listed : queue.job? id = some job)
      (waiting : job.status = .pending)
      (reason : queue.workflow? job.workflow = none ∨ around.runsJobs ∧ around.clock = none) :
      Move around operation queue [.told (.failed (job.refuse error around.stamp))]
        (edit id (·.refuse error around.stamp) { queue with pending := rest })
  | skipped {operation} {queue : Queue Time} {id rest} (line : queue.pending = id :: rest)
      (gone : ∀ job, queue.job? id = some job → job.status ≠ .pending) :
      Move around operation queue [] { queue with pending := rest }
  | cancelledRunning {queue : Queue Time} {id} {job : Job}
      (listed : queue.job? id = some job) (running : job.status = .running) :
      Move around (.cancel id) queue [.told (.cancelled { job with status := .cancelled })]
        (queue.edit id fun job => { job with status := .cancelled })
  | cancelledWaiting {queue : Queue Time} {id} {job : Job}
      (listed : queue.job? id = some job) (waiting : job.status = .pending) :
      Move around (.cancel id) queue [.told (.cancelled (callOff around.stamp job))]
        (undelay id
          { queue.edit id (callOff around.stamp) with pending := queue.pending.erase id })
  | renewed {queue : Queue Time} {id} {job : Job}
      (listed : queue.job? id = some job) (failed : job.status = .failed)
      (going : queue.stopping = false) :
      Move around (.retry id) queue [.told (.retried job.renew)]
        ((queue.edit id Job.renew).append id)
  | released {operation} {queue : Queue Time} {id} {job : Job}
      (reports : operation.Reports id) (listed : queue.job? id = some job)
      (kept : job.status ≠ .cancelled)
      (idle : ¬ (job.status = .running ∧ id ∈ queue.running)) :
      Move around operation queue [] (queue.vacate id)
  | discarded {operation} {queue : Queue Time} {id} {job : Job}
      (reports : operation.Reports id) (listed : queue.job? id = some job)
      (cancelled : job.status = .cancelled) :
      Move around operation queue [] ((queue.vacate id).edit id (noteEnd around.stamp))
  | succeeded {queue : Queue Time} {id result} {job : Job}
      (listed : queue.job? id = some job) (running : job.status = .running)
      (slot : id ∈ queue.running) :
      Move around (.complete id result) queue
        [.told (.completed (job.succeed result around.stamp))]
        ((queue.vacate id).edit id (·.succeed result around.stamp))
  | gaveUp {queue : Queue Time} {id error} {job : Job}
      (listed : queue.job? id = some job) (running : job.status = .running)
      (slot : id ∈ queue.running)
      (spent : ¬ (job.attempts < queue.budget job.workflow ∧
        (queue.workflow? job.workflow).isSome)) :
      Move around (.fail id error) queue
        [.told (.failed ((noteError error job).giveUp around.stamp))]
        (((queue.vacate id).edit id (noteError error)).edit id (·.giveUp around.stamp))
  | postponed {queue : Queue Time} {id error seconds now due} {job : Job}
      (listed : queue.job? id = some job) (running : job.status = .running)
      (slot : id ∈ queue.running) (left : job.attempts < queue.budget job.workflow)
      (known : (queue.workflow? job.workflow).isSome)
      (delay : retryDelay queue.config job.attempts = .ok seconds)
      (timed : around.clock = some now) (counted : around.after now seconds = .ok due) :
      Move around (.fail id error) queue [.minded id due]
        { ((queue.vacate id).edit id (noteError error)).edit id putOff with
          delayed := queue.delayed ++ [(id, due)] }
  | undelayable {queue : Queue Time} {id error} {job : Job}
      (listed : queue.job? id = some job) (running : job.status = .running)
      (slot : id ∈ queue.running) (left : job.attempts < queue.budget job.workflow)
      (known : (queue.workflow? job.workflow).isSome) :
      Move around (.fail id error) queue [] ((queue.vacate id).edit id (noteError error))
  | unminded {queue : Queue Time} {id error} {job : Job}
      (listed : queue.job? id = some job) (running : job.status = .running)
      (slot : id ∈ queue.running) (left : job.attempts < queue.budget job.workflow)
      (known : (queue.workflow? job.workflow).isSome) :
      Move around (.fail id error) queue []
        (((queue.vacate id).edit id (noteError error)).edit id putOff)
  | forgotten {queue : Queue Time} {id}
      (gone : ∀ job, queue.job? id = some job → job.status ≠ .pending) :
      Move around (.wake id) queue [] (queue.undelay id)
  | readmitted {queue : Queue Time} {id} {job : Job} (armed : queue.delayed.any (·.1 == id))
      (listed : queue.job? id = some job) (waiting : job.status = .pending) :
      Move around (.wake id) queue [.told (.readmitted job)] ((queue.undelay id).append id)
  | cleaned {queue : Queue Time} {age} (cutoff : Int) (signals : List (Signal Time))
      (told : ∀ signal ∈ signals, ∃ count, signal = .told (.cleaned count)) :
      Move around (.cleanup age) queue signals
        { queue with jobs := queue.jobs.filter fun job => !isStale cutoff job }
  | stopped {queue : Queue Time} : Move around .stop queue [] queue.stop

/-- The listeners have no part in a move. -/
theorem Move.of_heardBy {around : Surroundings Time σ} {hear : Event → Scene Time σ → Scene Time σ}
    {operation : Operation} {queue next : Queue Time} {signals : List (Signal Time)}
    (move : Move (around.heardBy hear) operation queue signals next) :
    Move around operation queue signals next := by
  cases move <;> constructor <;> assumption

/-- Several moves of one operation, each with its signals received before the next one. -/
inductive Moves (around : Surroundings Time σ) (operation : Operation) :
    Scene Time σ → Scene Time σ → Prop where
  | refl (scene : Scene Time σ) : Moves around operation scene scene
  | step {queue next : Queue Time} {signals : List (Signal Time)} {state scene}
      (move : Move around operation queue signals next)
      (rest : Moves around operation (next, signals.foldl (around.receive next) state) scene) :
      Moves around operation (queue, state) scene

namespace Moves

variable {around : Surroundings Time σ} {operation : Operation}

theorem trans {first second third : Scene Time σ} (before : Moves around operation first second)
    (after : Moves around operation second third) : Moves around operation first third := by
  induction before with
  | refl => exact after
  | step move _ ih => exact .step move (ih after)

theorem one {queue next : Queue Time} {signals : List (Signal Time)} {state : σ}
    (move : Move around operation queue signals next) :
    Moves around operation (queue, state) (next, signals.foldl (around.receive next) state) :=
  .step move (.refl _)

end Moves

end Queue

end Orchestra
