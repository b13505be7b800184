import Orchestra.Proofs.Queue.Bookkeeping
import Orchestra.Proofs.Queue.Listeners

/-!
A queue that was stopped.

Attempts still end and delays still pass, listeners hear of that and use the queue again, and every
one of these steps asks for the next job in line. None is started any more, and the queue only runs
down.
-/

namespace Orchestra.Queue

variable {Time : Type}

/-- A queue becomes another by operations of users and of listeners. -/
def Evolves (before after : Queue Time) : Prop :=
  ∃ (σ : Type) (state : σ) (uses : List (Use Time σ)),
    (∀ use ∈ uses, use.Permitted fun _ => True) ∧ (run uses (before, state)).1 = after

/-- The record of a job that is not started any more, and its record later. -/
structure Stalled (earlier later : Job) : Prop where
  number : later.id = earlier.id
  attempts : later.attempts = earlier.attempts
  running : later.status = .running → earlier.status = .running

/-- A queue only runs down: there are no new records, no record counts another attempt or is running
anew, and slots are only freed. -/
structure RunsDown (before after : Queue Time) : Prop where
  stopping : after.stopping = true
  issued : after.issued = before.issued
  numbers : (after.jobs.map Job.id).Sublist (before.jobs.map Job.id)
  stalled : ∀ job ∈ after.jobs, ∃ earlier ∈ before.jobs, Stalled earlier job
  running : after.running.Sublist before.running

/-- Nothing enters a queue any more: those who ask for it are refused, and nothing is changed. -/
structure Closed (queue : Queue Time) : Prop where
  enqueue : ∀ {σ : Type} (around : Surroundings Time σ) (name : Value) (context : Context)
    (state : σ), enqueueValue around name context (queue, state) =
      (.error (.queueShutdown "Workflow queue is shutting down"), (queue, state))
  retry : ∀ {σ : Type} (around : Surroundings Time σ) (id : JobId) (job : Job) (state : σ),
    queue.job? id = some job → job.status = .failed →
      retry around id (queue, state) =
        (.error (.queueShutdown "Workflow queue is shutting down"), (queue, state))

theorem Stalled.refl (job : Job) : Stalled job job :=
  ⟨rfl, rfl, id⟩

theorem Stalled.trans {first second third : Job} (before : Stalled first second)
    (after : Stalled second third) : Stalled first third where
  number := after.number.trans before.number
  attempts := after.attempts.trans before.attempts
  running := before.running ∘ after.running

namespace RunsDown

variable {first second third queue : Queue Time}

theorem refl (stopping : queue.stopping = true) : RunsDown queue queue where
  stopping := stopping
  issued := rfl
  numbers := .refl _
  stalled job listed := ⟨job, listed, .refl job⟩
  running := .refl _

theorem trans (before : RunsDown first second) (after : RunsDown second third) :
    RunsDown first third where
  stopping := after.stopping
  issued := after.issued.trans before.issued
  numbers := after.numbers.trans before.numbers
  stalled job listed := by
    obtain ⟨middle, listed, late⟩ := after.stalled job listed
    obtain ⟨earlier, listed, early⟩ := before.stalled middle listed
    exact ⟨earlier, listed, early.trans late⟩
  running := after.running.trans before.running

/-- Where jobs wait makes no difference, nor which workflows are known. -/
theorem aside {next : Queue Time} (before : RunsDown queue first)
    (stopping : next.stopping = first.stopping) (issued : next.issued = first.issued)
    (jobs : next.jobs = first.jobs) (running : next.running = first.running) :
    RunsDown queue next where
  stopping := stopping.trans before.stopping
  issued := issued.trans before.issued
  numbers := jobs ▸ before.numbers
  stalled := jobs ▸ before.stalled
  running := running ▸ before.running

theorem edit {id : JobId} {change : Job → Job} (before : RunsDown queue first)
    (stalls : ∀ job, Stalled job (change job)) : RunsDown queue (first.edit id change) := by
  have stalled : ∀ job, Stalled job (if job.id == id then change job else job) := by
    intro job
    split
    · exact stalls job
    · exact .refl job
  refine before.trans ⟨before.stopping, rfl, ?_, ?_, .refl _⟩
  · have same : ((first.edit id change).jobs.map Job.id) = first.jobs.map Job.id := by
      rw [Queue.edit, List.map_map]
      exact List.map_congr_left fun job _ => (stalled job).number
    exact same ▸ .refl _
  · intro job edited
    obtain ⟨earlier, listed, rfl⟩ := List.mem_map.mp edited
    exact ⟨earlier, listed, stalled earlier⟩

theorem vacate (id : JobId) (before : RunsDown queue first) :
    RunsDown queue (first.vacate id) :=
  before.trans ⟨before.stopping, rfl, .refl _, (refl before.stopping).stalled, List.filter_sublist⟩

end RunsDown

section Move

variable {σ : Type} {around : Surroundings Time σ} {operation : Operation} {queue next : Queue Time}
  {signals : List (Signal Time)}

/-- No move starts a job or brings one in once a queue is stopped. -/
theorem Move.runsDown (move : Move around operation queue signals next)
    (stopping : queue.stopping = true) : RunsDown queue next := by
  have still := RunsDown.refl stopping
  have reported : ∀ (job : JobId) (error : Option String),
      RunsDown queue ((queue.vacate job).edit job (noteError error)) :=
    fun job error => (still.vacate job).edit fun _ => ⟨rfl, rfl, id⟩
  cases move with
  | enqueued going | started _ _ _ _ _ _ going | renewed _ _ going =>
      exact absurd (going.symm.trans stopping) Bool.false_ne_true
  | registered | unregistered | skipped | forgotten | readmitted =>
      exact still.aside rfl rfl rfl rfl
  | @refused _ _ _ rest =>
      have popped : RunsDown queue { queue with pending := rest } := still.aside rfl rfl rfl rfl
      exact popped.edit fun _ => ⟨rfl, rfl, nofun⟩
  | cancelledRunning => exact still.edit fun _ => ⟨rfl, rfl, nofun⟩
  | @cancelledWaiting _ id =>
      have called : RunsDown queue (queue.edit id (callOff around.stamp)) :=
        still.edit fun _ => ⟨rfl, rfl, nofun⟩
      exact called.aside rfl rfl rfl rfl
  | released => exact still.vacate _
  | discarded => exact (still.vacate _).edit fun _ => ⟨rfl, rfl, id⟩
  | succeeded => exact (still.vacate _).edit fun _ => ⟨rfl, rfl, nofun⟩
  | @gaveUp _ id error => exact (reported id error).edit fun _ => ⟨rfl, rfl, nofun⟩
  | @postponed _ id error =>
      have put : RunsDown queue (((queue.vacate id).edit id (noteError error)).edit id putOff) :=
        (reported id error).edit fun _ => ⟨rfl, rfl, nofun⟩
      exact put.aside rfl rfl rfl rfl
  | @undelayable _ id error => exact reported id error
  | @unminded _ id error => exact (reported id error).edit fun _ => ⟨rfl, rfl, nofun⟩
  | cleaned =>
      refine ⟨stopping, rfl, List.filter_sublist.map _, fun job kept => ?_, .refl _⟩
      exact ⟨job, (List.mem_filter.mp kept).1, .refl job⟩
  | stopped => exact still.aside stopping.symm rfl rfl rfl

end Move

theorem Evolves.sound {before after : Queue Time} (evolves : Evolves before after)
    (sound : Sound before) : Sound after := by
  obtain ⟨σ, state, uses, permitted, rfl⟩ := evolves
  exact (run_holds (fun _ => True) (fun _ _ _ _ => trivial) permitted sound trivial).1

theorem Evolves.runsDown {before after : Queue Time} (evolves : Evolves before after)
    (sound : Sound before) (stopping : before.stopping = true) : RunsDown before after := by
  obtain ⟨σ, state, uses, permitted, rfl⟩ := evolves
  exact (run_holds (RunsDown before)
    (fun _ _ move down => down.trans (move.runsDown down.stopping)) permitted sound
    (.refl stopping)).2

theorem Closed.of_stopping {queue : Queue Time} (stopping : queue.stopping = true) :
    Closed queue where
  enqueue around name context state := by
    cases name <;> simp [enqueueValue, Queue.enqueue, stopping]
  retry around id job state listed failed := by
    simp [Queue.retry, listed, failed, stopping]

/-- Surroundings in which nobody listens and no time is measured. -/
def unheard : Surroundings Time Unit where
  stamp := 0
  clock := none
  after time _ := .ok time
  runsJobs := false
  hear _ scene := scene
  launch _ _ state := state
  mind _ _ state := state

theorem unheard_permitted (operation : Operation) :
    (⟨unheard, operation⟩ : Use Time Unit).Permitted fun _ => True :=
  ⟨trivial, Quiet.busy (fun _ _ _ => rfl) _⟩

theorem evolves_stop (queue : Queue Time) : Evolves queue queue.stop :=
  ⟨Unit, (), [⟨unheard, .stop⟩], by simp [unheard_permitted], rfl⟩

/-- From the moment in which a queue is stopped it only runs down and is closed, whatever is done
with it and whatever its listeners do. -/
theorem runs_down_since_stopped (config : QueueConfig) {queue middle last : Queue Time}
    (reached : Evolves (empty config) queue) (since : Evolves queue.stop middle)
    (later : Evolves middle last) : RunsDown middle last ∧ Closed last := by
  have sound := (evolves_stop queue).sound (reached.sound (sound_empty config))
  have stopped := (since.runsDown sound rfl).stopping
  have down := later.runsDown (since.sound sound) stopped
  exact ⟨down, .of_stopping down.stopping⟩

/-- One job at a time, and a second before it is started again. -/
def hurriedConfig : QueueConfig where
  maxConcurrent := 1
  maxRetries := 3
  strategy := .fixed (.int 3) (.int 1)

end Orchestra.Queue
