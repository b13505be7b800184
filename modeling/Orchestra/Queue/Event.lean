import Orchestra.Queue.Job

/-!
What a queue tells its listeners.
-/

namespace Orchestra

/-- The kinds of events. -/
inductive Topic where
  | registered
  | unregistered
  | enqueued
  | started
  | execute
  | completed
  | failed
  | cancelled
  | retried
  | readmitted
  | cleaned
deriving DecidableEq, Repr

namespace Topic

def name : Topic → String
  | .registered => "workflow:registered"
  | .unregistered => "workflow:unregistered"
  | .enqueued => "job:enqueued"
  | .started => "job:started"
  | .execute => "job:execute"
  | .completed => "job:completed"
  | .failed => "job:failed"
  | .cancelled => "job:cancelled"
  | .retried => "job:retried"
  | .readmitted => "job:retry"
  | .cleaned => "queue:cleaned"

def all : List Topic :=
  [.registered, .unregistered, .enqueued, .started, .execute, .completed, .failed, .cancelled,
    .retried, .readmitted, .cleaned]

/-- The kind that a listener asks for by name. -/
def ofName (name : String) : Except Failure Topic :=
  match all.find? fun topic => topic.name == name with
  | some topic => .ok topic
  | none => .error (.value ("Unknown queue event: " ++ name))

end Topic

inductive Event where
  | registered (workflow : Definition)
  | unregistered (workflow : Definition)
  | enqueued (job : Job)
  | started (job : Job)
  /-- An attempt was admitted; whoever runs jobs from outside begins now. -/
  | execute (job : Job) (workflow : Definition)
  | completed (job : Job)
  | failed (job : Job)
  | cancelled (job : Job)
  /-- A failed job was queued again by hand. -/
  | retried (job : Job)
  /-- A job is queued again after its delay. -/
  | readmitted (job : Job)
  | cleaned (count : Nat)

namespace Event

def topic : Event → Topic
  | .registered _ => .registered
  | .unregistered _ => .unregistered
  | .enqueued _ => .enqueued
  | .started _ => .started
  | .execute .. => .execute
  | .completed _ => .completed
  | .failed _ => .failed
  | .cancelled _ => .cancelled
  | .retried _ => .retried
  | .readmitted _ => .readmitted
  | .cleaned _ => .cleaned

/-- The job that an event is about. -/
def job? : Event → Option Job
  | .enqueued job | .started job | .execute job _ | .completed job | .failed job | .cancelled job
  | .retried job | .readmitted job => some job
  | .registered _ | .unregistered _ | .cleaned _ => none

/-- The event with the record of its job as it is now. -/
def refreshed (current : JobId → Option Job) : Event → Event
  | .enqueued job => .enqueued ((current job.id).getD job)
  | .started job => .started ((current job.id).getD job)
  | .execute job workflow => .execute ((current job.id).getD job) workflow
  | .completed job => .completed ((current job.id).getD job)
  | .failed job => .failed ((current job.id).getD job)
  | .cancelled job => .cancelled ((current job.id).getD job)
  | .retried job => .retried ((current job.id).getD job)
  | .readmitted job => .readmitted ((current job.id).getD job)
  | event => event

end Event

end Orchestra
