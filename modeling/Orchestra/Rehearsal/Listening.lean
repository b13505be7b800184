import Orchestra.Rehearsal.World

/-!
How the queue of a rehearsal is used: its listeners hear of every event and may use the queue
themselves, and the work it orders is left as tasks.
-/

namespace Orchestra.Rehearsal

/-- A point in time as a stamp, to the nearest millisecond. -/
def stampAt (time : Float) : Stamp :=
  (Decimal.roundWhole? (time * 1000.0)).getD 0

/-- A point in time in microseconds. -/
def microsecondsAt (time : Float) : Int :=
  (Decimal.roundWhole? (time * 1000000.0)).getD 0

/-- The surroundings of the queue at a point in time, with what listeners do. -/
def surroundings (now : Float) (timed runsJobs : Bool)
    (hear : Event → Scene Float World → Scene Float World) : Surroundings Float World where
  stamp := stampAt now
  clock := if timed then some now else none
  after time seconds := (seconds.toFloat.mapError Failure.outOfRange).map (time + ·)
  runsJobs
  hear
  launch id workflow world := world.later (.attempt id workflow)
  mind id due world := world.later (.wake id due)

namespace Reaction

/-- A listener reacts to an event. -/
def act (around : Surroundings Float World) (subscription : Subscription) (event : Event)
    (reaction : Reaction) (scene : Scene Float World) : Scene Float World :=
  match reaction, event.job? with
  | .complete, some job =>
    Queue.complete around job.id (.obj [("by", .str subscription.listener)]) scene
  | .fail, some job => (Queue.fail around job.id (some ("by " ++ subscription.listener)) scene).2
  | .cancel, some job => (Queue.cancel around job.id scene).2
  | .retry, some job => (Queue.retry around job.id scene).2
  | .enqueue workflow, _ => (Queue.enqueue around workflow {} scene).2
  | .unregister workflow, _ => (Queue.unregister around workflow scene).2
  | .leave, _ =>
    (scene.1, { scene.2 with
      audience := scene.2.audience.unbind event.topic.name subscription.listener })
  | _, _ => scene

end Reaction

namespace Scene

/-- The record of a job as it is now. -/
def current (scene : Scene Float World) (id : JobId) : Option Job :=
  (scene.1.job? id).or (scene.2.dropped.find? fun job => job.id == id)

end Scene

/-- A listener hears of an event: it takes note, and reacts when it still may. -/
def listen (around : Option (Surroundings Float World)) (timed : Bool) (event : Event)
    (scene : Scene Float World) (subscription : Subscription) : Scene Float World :=
  let (queue, world) := scene
  let listener := world.audience.listener subscription.listener
  match listener.reaction, around with
  | .late, _ =>
    if timed then (queue, world.later (.tell subscription.listener event)) else scene
  | reaction, around =>
    let event := event.refreshed (Scene.current scene)
    let audience := world.audience.note subscription.listener event
    if listener.left = 0 then (queue, { world with audience })
    else
      let world := { world with audience := audience.spend subscription.listener }
      match around with
      | some around => reaction.act around subscription event (queue, world)
      | none => (queue, world)

/-- All listeners to the topic of an event hear of it; `depth` bounds the reactions to reactions. -/
def announce (now : Float) (timed runsJobs : Bool) : Nat → Event → Scene Float World →
    Scene Float World
  | 0, event, scene =>
    (scene.2.audience.of event.topic).foldl (listen none timed event) scene
  | depth + 1, event, scene =>
    let around := surroundings now timed runsJobs (announce now timed runsJobs depth)
    (scene.2.audience.of event.topic).foldl (listen (some around) timed event) scene

namespace World

def runsJobs (world : World) : Bool :=
  match world.runner with
  | .outside => false
  | .scripted _ | .workflows => true

/-- The surroundings of the queue of a world. Every reaction uses up one of those that are left, so
that their number bounds the depth of reactions. -/
def around (world : World) (now : Float) : Surroundings Float World :=
  surroundings now world.timed world.runsJobs
    (announce now world.timed world.runsJobs (world.audience.patience + 1))

/-- The jobs of a queue that another one lacks. -/
def missing (before after : Queue Float) : List Job :=
  before.jobs.filter fun job => (after.job? job.id).isNone

/-- Uses the queue; jobs that it drops are kept aside. -/
def use {α : Type} (world : World) (now : Float)
    (operation : Surroundings Float World → Scene Float World → α × Scene Float World) :
    α × World :=
  let (answer, queue, after) := operation (world.around now) (world.queue, world)
  (answer, { after with queue, dropped := after.dropped ++ missing world.queue queue })

/-- Uses the queue where nothing is answered. -/
def run (world : World) (now : Float)
    (operation : Surroundings Float World → Scene Float World → Scene Float World) : World :=
  (world.use now fun around scene => ((), operation around scene)).2

/-- Puts a new job into the line. Where the limit of the queue cannot be counted up to, this shows as
soon as the line is looked at. -/
def enqueue (world : World) (now : Float) (name : Value) (context : Context) :
    Except Failure JobId × World :=
  let (result, world) := world.use now fun around => Queue.enqueueValue around name context
  match result, world.limitFault with
  | .ok _, some fault =>
    (if world.queue.stopping || world.queue.pending.isEmpty then result else .error fault, world)
  | _, _ => (result, world)

/-- The budget that a job would be counted against cannot be counted up to. -/
def budgetFaultOf? (world : World) (id : JobId) : Option Failure :=
  (world.queue.job? id).bind fun job =>
    let ownBudget := (world.queue.workflow? job.workflow).bind Definition.retries
    if job.status = .running && world.queue.running.contains id && ownBudget.isNone then
      world.budgetFault
    else none

/-- Reports that an attempt failed. -/
def fail (world : World) (now : Float) (id : JobId) (error : Option String) :
    Except Failure Unit × World :=
  match world.budgetFaultOf? id with
  | some fault =>
    let note (job : Job) : Job := { job with error := some (error.getD "Unknown error") }
    (.error fault, { world with queue := (world.queue.edit id note).vacate id })
  | none => world.use now fun around => Queue.fail around id error

end World

end Orchestra.Rehearsal
