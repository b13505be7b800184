import Orchestra.Queue.Event

/-!
Listeners of a queue that react to what they hear.

A listener is known by its name and may be bound to several topics. What it hears is noted; then it
reacts, at most a given number of times. A late listener only takes note, after all other work that
is ready.
-/

namespace Orchestra.Rehearsal

/-- What a listener does when it hears of something. -/
inductive Reaction where
  | none
  | late
  | complete
  | fail
  | cancel
  | retry
  | enqueue (workflow : String)
  | unregister (workflow : String)
  /-- It ends its latest subscription to the topic. -/
  | leave
deriving DecidableEq, Repr

namespace Reaction

/-- The reaction of a name; some of them concern a workflow. -/
def ofName (name workflow : String) : Reaction :=
  match name with
  | "async" | "async_raise" => .late
  | "complete" => .complete
  | "fail" => .fail
  | "cancel" => .cancel
  | "retry" => .retry
  | "enqueue" => .enqueue workflow
  | "unregister" => .unregister workflow
  | "off" => .leave
  | _ => .none

end Reaction

structure Listener where
  reaction : Reaction := .none
  /-- How often it may still react. -/
  left : Nat := 1000

/-- A listener that is bound to a topic. -/
structure Subscription where
  number : Nat
  topic : Topic
  listener : String
deriving DecidableEq, Repr

/-- Something that a listener heard. -/
structure Heard where
  listener : String
  event : Event

structure Audience where
  listeners : List (String × Listener) := []
  /-- In the order in which they were bound. -/
  subscriptions : List Subscription := []
  /-- The latest subscription of each listener to each topic, the latest of all first. -/
  latest : List Subscription := []
  heard : List Heard := []

namespace Audience

/-- Makes a listener known by a name; a name that is known keeps its reaction. -/
def introduce (audience : Audience) (name : String) (listener : Listener) : Audience :=
  if audience.listeners.any (·.1 == name) then audience
  else { audience with listeners := audience.listeners ++ [(name, listener)] }

/-- Binds a listener to a topic. -/
def bind (audience : Audience) (topic : Topic) (name : String) : Audience :=
  let subscription : Subscription := ⟨audience.latest.length, topic, name⟩
  { audience with
    subscriptions := audience.subscriptions ++ [subscription]
    latest := subscription :: audience.latest }

/-- Ends a subscription. -/
def drop (audience : Audience) (number : Nat) : Audience :=
  { audience with
    subscriptions := audience.subscriptions.filter fun subscription =>
      subscription.number != number }

/-- Ends the latest subscription of a listener to a topic. -/
def unbind (audience : Audience) (topic : String) (name : String) : Audience :=
  match audience.latest.find? fun subscription =>
      subscription.topic.name == topic && subscription.listener == name with
  | some subscription => audience.drop subscription.number
  | none => audience

def listener (audience : Audience) (name : String) : Listener :=
  (audience.listeners.lookup name).getD {}

/-- One more reaction of a listener is used up. -/
def spend (audience : Audience) (name : String) : Audience :=
  { audience with
    listeners := audience.listeners.map fun entry =>
      if entry.1 == name then (name, { entry.2 with left := entry.2.left - 1 }) else entry }

/-- The subscriptions to a topic. -/
def of (audience : Audience) (topic : Topic) : List Subscription :=
  audience.subscriptions.filter fun subscription => subscription.topic = topic

def note (audience : Audience) (name : String) (event : Event) : Audience :=
  { audience with heard := audience.heard ++ [⟨name, event⟩] }

/-- How many reactions there can still be. -/
def patience (audience : Audience) : Nat :=
  audience.listeners.foldl (fun count entry => count + entry.2.left) 0

end Audience

end Orchestra.Rehearsal
