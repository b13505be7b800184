import Orchestra.Execution.Run
import Orchestra.Rehearsal.Actions
import Orchestra.Rehearsal.Records
import Orchestra.Rehearsal.Script

/-!
The collaborators of rehearsed runs: each of them may be missing, scripted, or the real one.
-/

namespace Orchestra.Rehearsal

/-- A data layer in memory, whose calls fail as they are told to. -/
structure Store where
  records : Records := {}
  /-- How calls fail, by their names. -/
  faults : List (String × Failure) := []

/-- A collaborator that only takes note, and may fail afterwards. -/
structure Recorder where
  fault : Option Failure := none

def Recorder.outcome (recorder : Recorder) : Except Failure Value :=
  match recorder.fault with
  | some failure => .error failure
  | none => .ok .null

/-- What a scripted HTTP client answers, after some seconds. -/
structure Retort where
  seconds : Float := 0.0
  outcome : Except Failure Value := .ok (.obj [("ok", .bool true)])

/-- Who sends the requests of runs. -/
inductive Fetcher where
  | absent
  | scripted (retorts : List Retort)
  | client

def Fetcher.isPresent : Fetcher → Bool
  | .absent => false
  | .scripted _ | .client => true

/-- Who delivers the messages of runs. -/
inductive Notifier where
  | absent
  | recorded (recorder : Recorder)
  | managed

def Notifier.isPresent : Notifier → Bool
  | .absent => false
  | .recorded _ | .managed => true

/-- Who is told of the records that runs change. -/
inductive Sink where
  | absent
  | recorded (recorder : Recorder)
  /-- The triggers of the workflows, up to a depth of cascades. -/
  | routed (maxDepth : Value)

def Sink.isPresent : Sink → Bool
  | .absent => false
  | .recorded _ | .routed _ => true

structure Team where
  data : Option Store := some {}
  mail : Option Recorder := some {}
  fetcher : Fetcher := .absent
  notifier : Notifier := .absent
  sink : Sink := .absent
  plugins : Bool := true
  counters : Counters := []

namespace Team

/-- The collaborators that are there. -/
def collaborators (team : Team) : Execution.Collaborators :=
  { data := team.data.isSome
    email := team.mail.isSome
    http := team.fetcher.isPresent
    notifications := team.notifier.isPresent
    events := team.sink.isPresent
    plugins := if team.plugins then some Actions.ofPlugin? else none }

/-- The answer of the data layer to a call, unless it is told to fail. -/
def ofStore (team : Team) (name : String) (call : Records → Value × Records) :
    Except Failure Value × Team :=
  match team.data with
  | none => (.error (.serviceMissing (.str "Data layer")), team)
  | some store =>
    match store.faults.lookup name with
    | some failure => (.error failure, team)
    | none =>
      let (answer, records) := call store.records
      (.ok answer, { team with data := some { store with records } })

/-- The next answer of a scripted HTTP client. -/
def retort (team : Team) : Retort × Team :=
  match team.fetcher with
  | .scripted retorts =>
    let (retort, rest) := Script.next retorts
    (retort.getD {}, { team with fetcher := .scripted rest })
  | _ => ({}, team)

end Team

end Orchestra.Rehearsal
