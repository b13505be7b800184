import Orchestra.Proofs.Queue.Listeners
import Orchestra.Rehearsal.Listening
import Orchestra.Proofs.Queue.Closing
import Orchestra.Proofs.Talk
import Orchestra.Rehearsal.Session

/-!
The audience of a rehearsal consists of listeners that use the queue by its operations only.
-/

namespace Orchestra.Rehearsal

open Queue

variable {around : Option (Surroundings Float World)} {timed : Bool} {event : Event}

/-- A scene is reached by deeds in the given surroundings. -/
def ReachedBy (around : Option (Surroundings Float World)) (first last : Scene Float World) : Prop :=
  ∃ deeds : List (Deed Float World), last = deeds.foldl Deed.perform first ∧
    ∀ use, .uses use ∈ deeds → around = some use.around

theorem ReachedBy.refl (scene : Scene Float World) : ReachedBy around scene scene :=
  ⟨[], rfl, by simp⟩

theorem ReachedBy.trans {first second third : Scene Float World}
    (before : ReachedBy around first second) (after : ReachedBy around second third) :
    ReachedBy around first third := by
  obtain ⟨early, rfl, owned⟩ := before
  obtain ⟨late, rfl, others⟩ := after
  refine ⟨early ++ late, by rw [List.foldl_append], fun use member => ?_⟩
  rcases List.mem_append.mp member with member | member
  · exact owned use member
  · exact others use member

/-- A listener changes the world as it pleases. -/
theorem ReachedBy.own (queue : Queue Float) (before after : World) :
    ReachedBy around (queue, before) (queue, after) :=
  ⟨[.owns fun _ => after], rfl, by simp⟩

theorem ReachedBy.use (around : Surroundings Float World) (operation : Operation)
    (scene : Scene Float World) :
    ReachedBy (some around) scene (operation.apply around scene) := by
  refine ⟨[.uses ⟨around, operation⟩], rfl, fun use member => ?_⟩
  cases List.mem_singleton.mp member
  rfl

/-- A reaction is an operation of the queue, or does nothing to it. -/
theorem act_reached (around : Surroundings Float World) (subscription : Subscription)
    (event : Event) (reaction : Reaction) (scene : Scene Float World) :
    ReachedBy (some around) scene (reaction.act around subscription event scene) := by
  unfold Reaction.act
  split
  · exact .use around (.complete _ _) scene
  · exact .use around (.fail _ _) scene
  · exact .use around (.cancel _) scene
  · exact .use around (.retry _) scene
  · exact .use around (.enqueue (.str _) {}) scene
  · exact .use around (.unregister _) scene
  · exact .own scene.1 scene.2 _
  · exact .refl scene

theorem listen_reached (scene : Scene Float World) (subscription : Subscription) :
    ReachedBy around scene (listen around timed event scene subscription) := by
  obtain ⟨queue, world⟩ := scene
  unfold listen
  dsimp only
  split
  · split
    · exact .own queue world _
    · exact .refl _
  · split
    · exact .own queue world _
    · split
      · exact (ReachedBy.own queue world _).trans (act_reached _ subscription _ _ _)
      · exact .own queue world _

theorem listeners_reached (around : Option (Surroundings Float World)) (timed : Bool)
    (event : Event) (subscriptions : List Subscription) (scene : Scene Float World) :
    ReachedBy around scene (subscriptions.foldl (listen around timed event) scene) := by
  induction subscriptions generalizing scene with
  | nil => exact .refl scene
  | cons first rest ih => exact (listen_reached scene first).trans (ih _)

/-- Those who hear of what a listener does are busy as well, by induction on how deep that goes. -/
theorem surroundings_busy (now : Float) (timed runsJobs : Bool) (depth : Nat) :
    Busy (fun _ => True) (surroundings now timed runsJobs (announce now timed runsJobs depth)) := by
  induction depth with
  | zero =>
      refine .of_deeds fun event scene => ?_
      obtain ⟨deeds, reached, owned⟩ :=
        listeners_reached none timed event (scene.2.audience.of event.topic) scene
      refine ⟨deeds, reached, fun use member => ?_⟩
      cases owned use member
  | succ depth ih =>
      refine .of_deeds fun event scene => ?_
      obtain ⟨deeds, reached, owned⟩ := listeners_reached
        (some (surroundings now timed runsJobs (announce now timed runsJobs depth))) timed event
        (scene.2.audience.of event.topic) scene
      refine ⟨deeds, reached, fun use member => ⟨trivial, ?_⟩⟩
      rw [← Option.some.inj (owned use member)]
      exact ih

/-- The surroundings of the queue of a world are busy ones. -/
theorem World.around_busy (world : World) (now : Float) :
    Busy (fun _ => True) (world.around now) :=
  surroundings_busy now world.timed world.runsJobs _

end Orchestra.Rehearsal

/-!
How a queue is shut down.

The process stops the queue at once and then only looks on. While it pauses, attempts end and
delays pass; each of these may happen in any order, and anything may be answered when the process looks
again.
-/

namespace Orchestra.Rehearsal

open Queue

/-- A turn in which a process of the world changes nothing. -/
def LooksOn (turn : Orchestra.Turn (shared World)) : Prop :=
  ∀ world, turn.call ≠ Wish.change world

/-- The talk of a process that stops the queue and then waits. It answers by what it saw last, which is
as things are when it ends, since nothing happens before its next pause. -/
inductive Waited (timeout : Float) : List (Orchestra.Turn (shared World)) → Bool → Prop where
  | mk (first last : World) (start now : Float) {waits answer}
      (idle : ∀ turn ∈ waits, LooksOn turn)
      (drained : answer = true ↔ last.queue.running = [])
      (late : answer = false → ¬ now < start + timeout) :
      Waited timeout
        (⟨Wish.look, first⟩ :: ⟨Wish.change { first with queue := first.queue.stop }, ()⟩ ::
          ⟨Wish.clock, start⟩ :: (waits ++ [⟨Wish.look, last⟩, ⟨Wish.clock, now⟩])) answer

theorem waitForJobs_succ (deadline poll : Float) (limit : Nat) :
    waitForJobs deadline poll (limit + 1) =
      .ask (Wish.look : Wish World) fun (world : World) =>
      .ask (Wish.clock : Wish World) fun (now : Float) =>
        if !world.queue.running.isEmpty && now < deadline then
          .ask (Wish.pause poll : Wish World) fun _ => waitForJobs deadline poll limit
        else .done (some world.queue.running.isEmpty) := rfl

/-- The wait ends with a look at the queue and at the clock, and the answer is taken from these. -/
theorem talks_waitForJobs {deadline poll : Float} {limit : Nat}
    {log : List (Orchestra.Turn (shared World))} {answer : Bool}
    (talks : Talks (waitForJobs deadline poll limit) log (some answer)) :
    ∃ waits last now, log = waits ++ [⟨Wish.look, last⟩, ⟨Wish.clock, now⟩] ∧
      (∀ turn ∈ waits, LooksOn turn) ∧ (answer = true ↔ last.queue.running = []) ∧
      (answer = false → ¬ now < deadline) := by
  induction limit generalizing log with
  | zero => exact absurd (talks_done_iff.mp talks).2 nofun
  | succ limit ih =>
      rw [waitForJobs_succ] at talks
      obtain ⟨world, _, rfl, looked⟩ := talks_ask_iff.mp talks
      obtain ⟨(now : Float), _, rfl, timed⟩ := talks_ask_iff.mp looked
      split at timed
      next waiting =>
        obtain ⟨_, _, rfl, paused⟩ := talks_ask_iff.mp timed
        obtain ⟨waits, last, later, rfl, idle, answers⟩ := ih paused
        refine ⟨⟨Wish.look, world⟩ :: ⟨Wish.clock, now⟩ :: ⟨Wish.pause poll, ()⟩ :: waits, last, later,
          rfl, ?_, answers⟩
        rintro turn (_ | ⟨_, _ | ⟨_, _ | ⟨_, member⟩⟩⟩) world
        · nofun
        · nofun
        · nofun
        · exact idle turn member world
      next ended =>
        obtain ⟨rfl, answered⟩ := talks_done_iff.mp timed
        obtain rfl := Option.some.inj answered
        refine ⟨[], world, now, rfl, by simp, List.isEmpty_iff, fun occupied early => ended ?_⟩
        rw [occupied, decide_eq_true early]
        rfl

theorem shutDown_eq (timeout poll : Float) :
    shutDown timeout poll =
      .ask (Wish.look : Wish World) fun (first : World) =>
      .ask (Wish.change { first with queue := first.queue.stop }) fun _ =>
      .ask (Wish.clock : Wish World) fun (start : Float) =>
        waitForJobs (start + timeout) poll Stage.patience := rfl

theorem talks_shutDown {timeout poll : Float} {log : List (Orchestra.Turn (shared World))}
    {answer : Bool} (talks : Talks (shutDown timeout poll) log (some answer)) :
    Waited timeout log answer := by
  rw [shutDown_eq] at talks
  obtain ⟨first, _, rfl, looked⟩ := talks_ask_iff.mp talks
  obtain ⟨_, _, rfl, changed⟩ := talks_ask_iff.mp looked
  obtain ⟨start, _, rfl, timed⟩ := talks_ask_iff.mp changed
  obtain ⟨waits, last, now, rfl, idle, drained, late⟩ := talks_waitForJobs timed
  exact .mk first last start now idle drained late

/-- Where no job is running, the process answers at once. -/
theorem idle_talks_shutDown {world : World} (idle : world.queue.running = [])
    (timeout poll start : Float) :
    Talks (shutDown timeout poll)
      [⟨Wish.look, world⟩, ⟨Wish.change { world with queue := world.queue.stop }, ()⟩,
        ⟨Wish.clock, start⟩, ⟨Wish.look, { world with queue := world.queue.stop }⟩,
        ⟨Wish.clock, start⟩] (some true) := by
  obtain ⟨limit, patient⟩ : ∃ limit, Stage.patience = limit + 1 := ⟨999999, rfl⟩
  rw [shutDown_eq, patient]
  simp only [waitForJobs_succ]
  iterate 5 refine .ask _ ?_
  have still : world.queue.stop.running = [] := idle
  rw [if_neg (by simp [still]), still]
  exact .done _

/-- Whatever a user of a rehearsal does with its queue, listeners included, is covered by what a queue
may become. -/
theorem World.evolves (world : World) (now : Float) (operation : Operation) :
    Evolves world.queue (operation.apply (world.around now) (world.queue, world)).1 := by
  refine ⟨World, world, [⟨world.around now, operation⟩], ?_, rfl⟩
  intro use member
  cases List.mem_singleton.mp member
  exact ⟨trivial, world.around_busy now⟩

/-- A shutdown is final. From then on the queue only runs down and is closed, in whatever order
attempts end, delays pass, and users and listeners use it. The process that waits for the running jobs
changes nothing more; it answers that all came to their end exactly if none is running at that moment,
and that some did not only when its time has passed. -/
theorem shutdown_is_final :
    (∀ {Time : Type} (config : QueueConfig) {queue middle last : Queue Time},
      Evolves (empty config) queue → Evolves queue.stop middle → Evolves middle last →
        RunsDown middle last ∧ Closed last) ∧
    ∀ {timeout poll : Float} {log : List (Orchestra.Turn (shared World))} {answer : Bool},
      Talks (shutDown timeout poll) log (some answer) → Waited timeout log answer :=
  ⟨runs_down_since_stopped, talks_shutDown⟩

/-- One job runs and another one waits. -/
def busyUses : List (Use Nat Unit) :=
  [Operation.register { name := "wf" }, .enqueue (.str "wf") {}, .enqueue (.str "wf") {}].map
    (⟨counting, ·⟩)

theorem counting_permitted (operations : List Operation) :
    ∀ use ∈ operations.map (⟨counting, ·⟩ : Operation → Use Nat Unit),
      use.Permitted fun _ => True := by
  intro use member
  obtain ⟨operation, -, rfl⟩ := List.mem_map.mp member
  exact ⟨trivial, Quiet.busy (fun _ _ _ => rfl) _⟩

/-- The running job fails after the shutdown, and the job in line stays there. -/
theorem failure_after_shutdown_starts_nothing :
    (∃ queue last : Queue Nat,
      Evolves (empty hurriedConfig) queue ∧ Evolves queue.stop last ∧
      queue.running = [0] ∧ last.running = [] ∧ last.pending = [1] ∧
      RunsDown queue.stop last ∧ Closed last) ∧
    ∃ log, Talks (shutDown 30.0 0.1) log (some true) ∧ Waited 30.0 log true := by
  obtain ⟨final, answers⟩ := shutdown_is_final
  constructor
  · let queue : Queue Nat := (run busyUses (empty hurriedConfig, ())).1
    have reached : Evolves (empty hurriedConfig) queue :=
      ⟨Unit, (), busyUses, counting_permitted _, rfl⟩
    have fails : Evolves queue.stop (run [⟨counting, .fail 0 none⟩] (queue.stop, ())).1 :=
      ⟨Unit, (), _, counting_permitted [.fail 0 none], rfl⟩
    have still : Evolves queue.stop queue.stop := ⟨Unit, (), [], by simp, rfl⟩
    obtain ⟨down, closed⟩ := final hurriedConfig reached still fails
    exact ⟨queue, _, reached, fails, by decide +kernel, by decide +kernel, by decide +kernel, down,
      closed⟩
  · have talks := idle_talks_shutDown (rfl : ({} : World).queue.running = []) 30.0 0.1 0.0
    exact ⟨_, talks, answers talks⟩

end Orchestra.Rehearsal
