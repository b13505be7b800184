import Orchestra.Proofs.Run
import Orchestra.Queue.Control

/-!
The operations of a queue, and runs of them.

An operation happens in surroundings of its own: the clocks move on, and the event loop may be
missing. Listeners that are quiet hear everything and leave the queue alone.
-/

namespace Orchestra

variable {Time σ : Type}

/-- Listeners leave the queue alone. -/
def Surroundings.Quiet (around : Surroundings Time σ) : Prop :=
  ∀ event queue state, (around.hear event (queue, state)).1 = queue

namespace Queue

/-- What may be done with a queue, by users, by whoever runs its jobs, and by its delays. -/
inductive Operation where
  | register (workflow : Definition)
  | registerValue (data : Value)
  | unregister (name : String)
  | enqueue (name : Value) (context : Context)
  | cancel (id : JobId)
  | retry (id : JobId)
  | complete (id : JobId) (result : Value)
  | fail (id : JobId) (error : Option String)
  /-- The delay of a job is over, if it has one. -/
  | wake (id : JobId)
  | cleanup (age : Value)
  | stop

namespace Operation

/-- The queue and its surroundings after an operation. -/
def apply (around : Surroundings Time σ) (operation : Operation) (scene : Scene Time σ) :
    Scene Time σ :=
  match operation with
  | .register workflow => (Queue.register around workflow scene).2
  | .registerValue data => (Queue.registerValue around data scene).2
  | .unregister name => (Queue.unregister around name scene).2
  | .enqueue name context => (Queue.enqueueValue around name context scene).2
  | .cancel id => (Queue.cancel around id scene).2
  | .retry id => (Queue.retry around id scene).2
  | .complete id result => Queue.complete around id result scene
  | .fail id error => (Queue.fail around id error scene).2
  | .wake id => Queue.wake around id scene
  | .cleanup age => (Queue.cleanup around age scene).2
  | .stop => scene.edit Queue.stop

/-- The report of a failed attempt ends with a failure of its own. -/
def BreaksDown (around : Surroundings Time σ) (scene : Scene Time σ) : Operation → Prop
  | .fail id error => ∃ failure, (Queue.fail around id error scene).1 = .error failure
  | _ => False

end Operation

/-- An operation in its surroundings. -/
structure Use (Time σ : Type) where
  around : Surroundings Time σ
  operation : Operation

/-- A queue after a number of operations. -/
def run (uses : List (Use Time σ)) (scene : Scene Time σ) : Scene Time σ :=
  uses.foldl (fun scene use => use.operation.apply use.around scene) scene

@[simp] theorem run_nil (scene : Scene Time σ) : run [] scene = scene := rfl

@[simp] theorem run_append (first second : List (Use Time σ)) (scene : Scene Time σ) :
    run (first ++ second) scene = run second (run first scene) :=
  List.foldl_append

@[simp] theorem run_singleton (use : Use Time σ) (scene : Scene Time σ) :
    run [use] scene = use.operation.apply use.around scene := rfl

/-- A queue that was just made. -/
def empty (config : QueueConfig) : Queue Time :=
  { config }

/-- A clock of whole seconds that counts as far as doubles go. -/
def countOn (time : Nat) : Number → Except Failure Nat
  | .int seconds =>
    if seconds.natAbs < Nat.pow 2 1024 - Nat.pow 2 970 then .ok (time + seconds.toNat)
    else .error (.outOfRange .integerTooLarge)
  | .float _ => .ok time

/-- What an operation preserves is preserved by a whole run. -/
theorem run_preserves (Holds : Scene Time σ → Prop) {uses : List (Use Time σ)}
    (preserves : ∀ use ∈ uses, ∀ scene, Holds scene → Holds (use.operation.apply use.around scene))
    (scene : Scene Time σ) (holds : Holds scene) : Holds (run uses scene) :=
  foldl_preserves (fun scene (use : Use Time σ) => use.operation.apply use.around scene) Holds
    preserves holds

/-- What one operation after the other keeps holds in every state of a run exactly as long as no
operation goes wrong. -/
theorem run_prefixes_iff (Kept Holds : Scene Time σ → Prop)
    (Wrong : Use Time σ → Scene Time σ → Prop) {uses : List (Use Time σ)}
    (keeps : ∀ use ∈ uses, ∀ scene, Kept scene → Kept (use.operation.apply use.around scene))
    (step : ∀ use ∈ uses, ∀ scene, Kept scene → Holds scene →
      (Holds (use.operation.apply use.around scene) ↔ ¬ Wrong use scene))
    {scene : Scene Time σ} (kept : Kept scene) (holds : Holds scene) :
    (∀ past, past <+: uses → Holds (run past scene)) ↔
      ∀ past use, past ++ [use] <+: uses → ¬ Wrong use (run past scene) :=
  foldl_prefixes_iff (fun scene (use : Use Time σ) => use.operation.apply use.around scene) Kept Holds
    Wrong keeps step kept holds

end Queue

end Orchestra
