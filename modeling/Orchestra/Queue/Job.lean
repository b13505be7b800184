import Orchestra.Calendar
import Orchestra.Execution.Context
import Orchestra.Failure

/-!
Jobs: one record for every time a workflow is put into the queue, with the state of its life that it
is in.
-/

namespace Orchestra

inductive JobStatus where
  | pending
  | running
  | completed
  | failed
  | cancelled
deriving DecidableEq, Repr

namespace JobStatus

def name : JobStatus → String
  | .pending => "pending"
  | .running => "running"
  | .completed => "completed"
  | .failed => "failed"
  | .cancelled => "cancelled"

def all : List JobStatus :=
  [.pending, .running, .completed, .failed, .cancelled]

/-- The status that a value names. -/
def ofValue (value : Value) : Except Failure JobStatus :=
  match value.str?.bind fun name => all.find? fun status => status.name == name with
  | some status => .ok status
  | none => .error (.value (value.literal ++ " is not a valid JobStatus"))

/-- The job has come to its end. -/
def isTerminal : JobStatus → Bool
  | .pending | .running => false
  | .completed | .failed | .cancelled => true

end JobStatus

/-- The number of a job, counted from zero. -/
abbrev JobId := Nat

namespace JobId

/-- The written form of a number: thirty-two hexadecimal digits that count from one. -/
def text (id : JobId) : String :=
  "job_" ++ String.ofList (Text.padded 16 32 (id + 1))

/-- The value of lower-case hexadecimal digits. -/
def readHex (value : Nat) : List Char → Option Nat
  | [] => some value
  | c :: rest =>
    if '0' ≤ c && c ≤ '9' then readHex (16 * value + (c.toNat - '0'.toNat)) rest
    else if 'a' ≤ c && c ≤ 'f' then readHex (16 * value + (c.toNat - 'a'.toNat + 10)) rest
    else none

/-- The number that a text is the written form of. -/
def ofText? (s : String) : Option JobId := do
  let value ← readHex 0 (s.toList.drop 4)
  let id := value - 1
  if text id == s then some id else none

end JobId

structure Job where
  id : JobId
  workflow : String
  context : Context
  status : JobStatus := .pending
  /-- How often the job was started since it was queued by hand. -/
  attempts : Nat := 0
  createdAt : Stamp
  startedAt : Option Stamp := none
  completedAt : Option Stamp := none
  result : Value := .null
  error : Option String := none

instance : Inhabited Job := ⟨{ id := 0, workflow := "", context := {}, createdAt := 0 }⟩

namespace Job

def stampValue (stamp : Option Stamp) : Value :=
  .ofString? (stamp.map Calendar.stampText)

/-- The fields of a job that are reported. -/
def toFields (job : Job) : Fields :=
  [("id", .str job.id.text), ("workflow_name", .str job.workflow),
    ("status", .str job.status.name), ("attempts", .int job.attempts),
    ("created_at", stampValue (some job.createdAt)), ("started_at", stampValue job.startedAt),
    ("completed_at", stampValue job.completedAt), ("result", job.result),
    ("error", .ofString? job.error)]

/-- An attempt begins. -/
def start (job : Job) (stamp : Stamp) : Job :=
  { job with status := .running, attempts := job.attempts + 1, startedAt := some stamp }

/-- The last attempt succeeded. -/
def succeed (job : Job) (result : Value) (stamp : Stamp) : Job :=
  { job with status := .completed, result, error := none, completedAt := some stamp }

/-- The job has failed for good. -/
def giveUp (job : Job) (stamp : Stamp) : Job :=
  { job with status := .failed, completedAt := some stamp }

/-- The job never started an attempt and cannot. -/
def refuse (job : Job) (error : String) (stamp : Stamp) : Job :=
  { job with status := .failed, error := some error, completedAt := some stamp }

/-- The job as if it had just been queued, apart from its age. -/
def renew (job : Job) : Job :=
  { job with
    status := .pending
    attempts := 0
    error := none
    startedAt := none
    completedAt := none }

end Job

end Orchestra
