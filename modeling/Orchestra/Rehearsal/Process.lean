import Orchestra.Program

/-!
A timeline of work, and processes that share a state and the timeline.

Ready work is done in the order in which it became ready. Work that is due at a point in time
becomes ready when that point is reached, work for the same point in the order in which it was
planned. Time moves on only when no work is ready.

A process sees and changes the shared state, knows the time, and lets time pass; between two pauses
nothing else happens. The shared state collects orders for new work, which the stage takes from it
whenever a process pauses or ends.
-/

namespace Orchestra.Rehearsal

structure Timeline (Work : Type) where
  now : Float := 0.0
  ready : List Work := []
  /-- Planned work by the time it is due. -/
  planned : List (Float × Work) := []

namespace Timeline

variable {Work : Type}

/-- Work to be done after all that is ready. -/
def soon (timeline : Timeline Work) (work : Work) : Timeline Work :=
  { timeline with ready := timeline.ready ++ [work] }

/-- Puts planned work behind all that is due no later. -/
def insert (due : Float) (work : Work) : List (Float × Work) → List (Float × Work)
  | [] => [(due, work)]
  | entry :: rest =>
    if due < entry.1 then (due, work) :: entry :: rest else entry :: insert due work rest

/-- Work to be done at a point in time. -/
def plan (timeline : Timeline Work) (due : Float) (work : Work) : Timeline Work :=
  { timeline with planned := insert due work timeline.planned }

/-- Everything whose turn has come, and the timeline without it. -/
def turn (timeline : Timeline Work) : List Work × Timeline Work :=
  let due := timeline.planned.takeWhile fun entry => entry.1 ≤ timeline.now
  (timeline.ready ++ due.map Prod.snd,
    { timeline with ready := [], planned := timeline.planned.drop due.length })

/-- When the next turn can come. -/
def next? (timeline : Timeline Work) : Option Float :=
  if !timeline.ready.isEmpty then some timeline.now
  else timeline.planned.head?.map fun entry => if timeline.now < entry.1 then entry.1 else timeline.now

/-- Time moves on to a point that is not yet past. -/
def moveTo (timeline : Timeline Work) (time : Float) : Timeline Work :=
  if timeline.now < time then { timeline with now := time } else timeline

theorem turn_now (timeline : Timeline Work) : timeline.turn.2.now = timeline.now := rfl

theorem turn_ready (timeline : Timeline Work) : timeline.turn.2.ready = [] := rfl

end Timeline

/-- What a process asks for. -/
inductive Wish (σ : Type) where
  | look
  | change (state : σ)
  | clock
  /-- Let some seconds pass; no time at all only lets other work go first. -/
  | pause (seconds : Float)

def Wish.Reply {σ : Type} : Wish σ → Type
  | .look => σ
  | .change _ => Unit
  | .clock => Float
  | .pause _ => Unit

def shared (σ : Type) : Interface :=
  ⟨Wish σ, Wish.Reply⟩

abbrev Process (σ α : Type) := Program (shared σ) α

namespace Process

variable {σ α : Type}

def look : Process σ σ :=
  Program.call (I := shared σ) Wish.look

def put (state : σ) : Process σ Unit :=
  Program.call (I := shared σ) (Wish.change state)

def clock : Process σ Float :=
  Program.call (I := shared σ) Wish.clock

def pause (seconds : Float) : Process σ Unit :=
  Program.call (I := shared σ) (Wish.pause seconds)

/-- Lets other work go first. -/
def yield : Process σ Unit :=
  pause 0.0

/-- Lets other work go first several times. -/
def yields : Nat → Process σ Unit
  | 0 => .done ()
  | count + 1 => do
    yield
    yields count

/-- Changes the shared state. -/
def edit (change : σ → σ) : Process σ Unit := do
  put (change (← look))

/-- Changes the shared state and answers. -/
def take (change : σ → α × σ) : Process σ α := do
  let (answer, state) := change (← look)
  put state
  return answer

/-- Lets some seconds pass where there are any. -/
def pauseIfAny (seconds : Float) : Process σ Unit :=
  if 0.0 < seconds then pause seconds else .done ()

end Process

/-- A turn on the timeline: a process goes on, or its pause is over and it goes on after all that is
ready. -/
inductive Turn (σ : Type) where
  | go (process : Process σ Unit)
  | rouse (process : Process σ Unit)

/-- New work: at once, or at a point in time. -/
structure Order (σ : Type) where
  due : Option Float
  process : Process σ Unit

/-- A shared state and the work on its timeline. -/
structure Stage (σ : Type) where
  shared : σ
  timeline : Timeline (Turn σ) := {}

namespace Stage

variable {σ : Type}

def now (stage : Stage σ) : Float :=
  stage.timeline.now

/-- Puts orders on the timeline. -/
def accept (stage : Stage σ) (orders : List (Order σ)) : Stage σ :=
  { stage with
    timeline := orders.foldl (fun timeline order =>
      match order.due with
      | none => timeline.soon (.go order.process)
      | some due => timeline.plan due (.go order.process)) stage.timeline }

/-- Takes the orders that the shared state has collected. -/
def collect (take : σ → List (Order σ) × σ) (stage : Stage σ) : Stage σ :=
  let (orders, state) := take stage.shared
  ({ stage with shared := state } : Stage σ).accept orders

/-- A process goes on until it pauses or ends. -/
def go (take : σ → List (Order σ) × σ) : Process σ Unit → Stage σ → Stage σ
  | .done _, stage => stage.collect take
  | .ask .look next, stage => go take (next stage.shared) stage
  | .ask (.change state) next, stage => go take (next ()) { stage with shared := state }
  | .ask .clock next, stage => go take (next stage.now) stage
  | .ask (.pause seconds) next, stage =>
    let stage := stage.collect take
    { stage with
      timeline :=
        if 0.0 < seconds then
          stage.timeline.plan (stage.now + seconds) (.rouse (next ()))
        else stage.timeline.soon (.go (next ())) }

def perform (take : σ → List (Order σ) × σ) (stage : Stage σ) : Turn σ → Stage σ
  | .go process => stage.go take process
  | .rouse process => { stage with timeline := stage.timeline.soon (.go process) }

/-- Everything whose turn has come has one turn. -/
def round (take : σ → List (Order σ) × σ) (stage : Stage σ) : Stage σ :=
  let (turns, timeline) := stage.timeline.turn
  turns.foldl (perform take) { stage with timeline }

/-- Rounds up to a point in time, at most `limit` of them. -/
def roundsUntil (take : σ → List (Order σ) × σ) (time : Float) : Nat → Stage σ → Stage σ
  | 0, stage => stage
  | limit + 1, stage =>
    match stage.timeline.next? with
    | none => stage
    | some next =>
      if next ≤ time then
        roundsUntil take time limit
          (({ stage with timeline := stage.timeline.moveTo next } : Stage σ).round take)
      else stage

/-- Rounds until the shared state is as wanted, at most `limit` of them, and one more. -/
def roundsUpTo (take : σ → List (Order σ) × σ) (wanted : σ → Bool) : Nat → Stage σ → Stage σ
  | 0, stage => stage
  | limit + 1, stage =>
    if wanted stage.shared then stage.round take
    else
      match stage.timeline.next? with
      | none => stage
      | some next =>
        roundsUpTo take wanted limit
          (({ stage with timeline := stage.timeline.moveTo next } : Stage σ).round take)

/-- The number of rounds after which a rehearsal is broken off. -/
def patience : Nat := 1000000

/-- Does all work that is ready. -/
def settle (take : σ → List (Order σ) × σ) (stage : Stage σ) : Stage σ :=
  stage.roundsUntil take stage.now patience

/-- Does all work up to a point some seconds ahead, and goes there. -/
def advance (take : σ → List (Order σ) × σ) (seconds : Float) (stage : Stage σ) : Stage σ :=
  let target := stage.now + seconds
  let stage := stage.roundsUntil take target patience
  { stage with timeline := stage.timeline.moveTo target }

/-- Starts a process and does all work until the shared state is as wanted. -/
def complete (take : σ → List (Order σ) × σ) (process : Process σ Unit) (wanted : σ → Bool)
    (stage : Stage σ) : Stage σ :=
  (({ stage with timeline := stage.timeline.soon (.go process) } : Stage σ)).roundsUpTo take wanted
    patience

/-- Changes the shared state between rounds. -/
def edit (take : σ → List (Order σ) × σ) (change : σ → σ) (stage : Stage σ) : Stage σ :=
  ({ stage with shared := change stage.shared } : Stage σ).collect take

end Stage

end Orchestra.Rehearsal
