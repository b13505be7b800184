import Orchestra.Proofs.Queue.Window

/-!
Reports of failed attempts, carried out in full or not at all.

A report that is carried out frees the slot, sends the job to a delay or to its end, and admits
others. One that ends with a failure of its own has changed the queue already: the slot was freed
and the error noted before the delay was asked for, and nobody is admitted in its place.
-/

namespace Orchestra.Queue

variable {Time σ : Type}

/-- What a report that is carried out makes of its job. -/
inductive Sequel (stamp : Stamp) (id : JobId) (error : Option String) (before after : Queue Time)
    (job : Job) : Prop where
  | postponed (running : job.status = .running) (slot : id ∈ before.running)
      (left : job.attempts < before.budget job.workflow)
      (known : (before.workflow? job.workflow).isSome) (due : Time)
      (stands : after.Stands id (some (putOff (noteError error job), .delay due)))
  | gaveUp (running : job.status = .running) (slot : id ∈ before.running)
      (spent : ¬ (job.attempts < before.budget job.workflow ∧
        (before.workflow? job.workflow).isSome))
      (stands : after.Stands id (some ((noteError error job).giveUp stamp, .aside)))
  | dropped (cancelled : job.status = .cancelled)
      (stands : after.Stands id (some (noteEnd stamp job, .aside)))
  | ignored (kept : job.status ≠ .cancelled)
      (idle : ¬ (job.status = .running ∧ id ∈ before.running)) (same : after = before)

/-- The report that an attempt of a job failed was carried out: its slot is free, and no slot is
free for want of admission. -/
structure CarriedOut (stamp : Stamp) (id : JobId) (error : Option String)
    (before after : Queue Time) : Prop where
  freed : id ∉ after.running
  listed : ∀ job, before.job? id = some job → Sequel stamp id error before after job
  unlisted : before.job? id = none → after = before
  admitted : id ∈ before.running ∨ Settled before → Settled after
  books : Books before → Books after

/-- A report is carried out, or it ends with a failure and leaves the queue as it was. -/
def FailsAtomically (around : Surroundings Time σ) (id : JobId) (error : Option String)
    (scene : Scene Time σ) : Prop :=
  match fail around id error scene with
  | (.ok (), after) => CarriedOut around.stamp id error scene.1 after.1
  | (.error _, after) => after.1 = scene.1

/-- What a report that breaks down leaves behind: a job that neither holds a slot nor waits nor has
come to its end, and a free slot without an admission. -/
structure Abandoned (id : JobId) (before after : Queue Time) : Prop where
  lost : ∃ standing, after.Stands id standing ∧ Lost standing
  freed : id ∈ before.running ∧ after.running = before.running.filter (· != id)
  unadmitted : after.pending = before.pending
  undelayed : after.delayed = before.delayed

section Report

variable {around : Surroundings Time σ} {scene : Scene Time σ} {id : JobId}
  {error : Option String} {job : Job}

/-- Admission leaves a job alone that is not in line. -/
theorem admitAll_stands (quiet : around.Quiet) (sound : Sound scene.1) {place : Place Time}
    (stands : scene.1.Stands id (some (job, place))) (unlined : place ≠ .line) :
    (admitAll around scene).1.Stands id (some (job, place)) := by
  -- admission is the same whatever the operation; this one does nothing to a job by itself
  have moves : Moves around (.unregister "") scene (admitAll around scene) :=
    admitAll_moves quiet scene
  obtain ⟨-, after, kept, rfl⟩ := moves.follow
    (fun _ standing => standing = some (job, place)) sound stands rfl (by
      rintro queue signals next before after - - passage - rfl
      generalize signals.filter (·.concerns id) = own at passage
      cases passage with
      | stay => rfl
      | started | refused => exact (unlined rfl).elim
      | discarded reports => exact reports.elim)
  exact kept

/-- A report that does not count is carried out. -/
theorem carriedOut_ignored {stamp : Stamp} {queue : Queue Time} (outside : id ∉ queue.running)
    (kept : ∀ job, queue.job? id = some job → job.status ≠ .cancelled) :
    CarriedOut stamp id error queue queue where
  freed := outside
  listed job listed := .ignored (kept job listed) (fun idle => outside idle.2) rfl
  unlisted _ := rfl
  admitted settled := settled.resolve_left outside
  books books := books

/-- A report that moves its job and ends in admission is carried out. -/
theorem carriedOut_admitted (quiet : around.Quiet) {queue : Queue Time}
    (listed : queue.job? id = some job) {next : Job} {place : Place Time}
    (sound : Sound scene.1) (stands : scene.1.Stands id (some (next, place)))
    (unlined : place ≠ .line) (unslotted : place ≠ .slot)
    (sequel : ∀ after : Queue Time, after.Stands id (some (next, place)) →
      Sequel around.stamp id error queue after job)
    (books : Books queue → Books (admitAll around scene).1) :
    CarriedOut around.stamp id error queue (admitAll around scene).1 := by
  have kept := admitAll_stands quiet sound stands unlined
  refine ⟨?_, ?_, ?_, fun _ => admitAll_settled quiet scene, books⟩
  · simpa [kept.mem_running] using unslotted
  · intro other same
    obtain rfl := Option.some.inj (listed.symm.trans same)
    exact sequel _ kept
  · intro gone
    simp [listed] at gone

/-- A report without a failure of its own is carried out. -/
theorem carriedOut (quiet : around.Quiet) (sound : Sound scene.1)
    (fine : (fail around id error scene).1 = .ok ()) :
    CarriedOut around.stamp id error scene.1 (fail around id error scene).2.1 := by
  have books : Books scene.1 → Books (fail around id error scene).2.1 := by
    intro books
    exact (fail_books_iff quiet books sound id error).mpr (by simp [fine])
  obtain ⟨standing, stands⟩ := sound.stands id
  obtain ⟨queue, state⟩ := scene
  have setback := fail_spec around id error queue state
  generalize fail around id error (queue, state) = result at setback fine books
  cases setback with
  | dismissed released =>
      cases released with
      | missing gone =>
          have absent : standing = none := by simpa [stands.job?] using gone
          exact carriedOut_ignored (by simp [stands.mem_running, absent]) (by simp [gone])
      | @dropped job listed cancelled =>
          obtain ⟨place, rfl⟩ := stands.of_listed listed
          have move : Move around (.complete id .null) queue [] _ :=
            .discarded rfl listed cancelled
          have ended : Stands ((queue.vacate id).edit id (noteEnd around.stamp)) id
              (some (noteEnd around.stamp job, .aside)) := by
            refine ⟨card_discarded_self stands cancelled around.stamp, stands.fits.1, .inl ?_⟩
            simp [noteEnd, cancelled, JobStatus.isTerminal]
          exact carriedOut_admitted quiet listed (sound.move move) ended (by simp) (by simp)
            (fun _ => .dropped cancelled) books
      | @ignored job listed kept idle =>
          have outside := stands.not_running listed kept idle
          show CarriedOut around.stamp id error queue (queue.vacate id)
          rw [vacate_absent outside]
          exact carriedOut_ignored outside (by simpa [listed] using kept)
  | @gaveUp job listed running slot spent =>
      obtain rfl := stands.of_slot slot listed
      have move : Move around (.fail id error) queue _ _ := .gaveUp listed running slot spent
      have passage : Passage around queue id (.fail id error) _ _ _ := .gaveUp running spent
      have ended : Stands _ id (some ((noteError error job).giveUp around.stamp, .aside)) :=
        ⟨card_setback_self stands error (·.giveUp around.stamp) fun _ => rfl,
          passage.fits stands.fits⟩
      refine carriedOut_admitted quiet listed ?_ ?_ (by simp) (by simp)
        (fun _ => .gaveUp running slot spent) books
      · rw [tell_fst quiet]
        exact sound.move move
      · rw [tell_fst quiet]
        exact ended
  | @postponed job _ _ due listed running slot left known delay timed counted =>
      obtain rfl := stands.of_slot slot listed
      have move : Move around (.fail id error) queue _ _ :=
        .postponed listed running slot left known delay timed counted
      have passage : Passage around queue id (.fail id error) _ _ _ :=
        .postponed running left known delay timed counted
      have waits : Stands _ id (some (putOff (noteError error job), .delay due)) :=
        ⟨card_postponed_self stands error due, passage.fits stands.fits⟩
      exact carriedOut_admitted quiet listed (sound.move move) waits (by simp) (by simp)
        (fun _ => .postponed running slot left known due) books
  | undelayable | unminded => cases fine

/-- A report that breaks down has freed the slot of its job and changed nothing else but the job. -/
theorem abandoned (sound : Sound scene.1) {failure : Failure}
    (breaks : (fail around id error scene).1 = .error failure) :
    Abandoned id scene.1 (fail around id error scene).2.1 := by
  obtain ⟨slot, lost⟩ := fail_loses sound breaks
  refine ⟨lost, ⟨slot, ?_⟩, ?_, ?_⟩
  all_goals
    obtain ⟨queue, state⟩ := scene
    have setback := fail_spec around id error queue state
    generalize fail around id error (queue, state) = result at setback breaks
    cases setback with
    | dismissed | gaveUp | postponed => cases breaks
    | undelayable | unminded => rfl

/-- A report is carried out in full or leaves no trace exactly when it does not break down. -/
theorem failsAtomically_iff (quiet : around.Quiet) (sound : Sound scene.1) :
    FailsAtomically around id error scene ↔ ¬ (Operation.fail id error).BreaksDown around scene := by
  change _ ↔ ¬ ∃ failure, (fail around id error scene).1 = .error failure
  have whole : (fail around id error scene).1 = .ok () →
      CarriedOut around.stamp id error scene.1 (fail around id error scene).2.1 :=
    carriedOut quiet sound
  have partly : ∀ failure, (fail around id error scene).1 = .error failure →
      Abandoned id scene.1 (fail around id error scene).2.1 := fun _ => abandoned sound
  unfold FailsAtomically
  generalize fail around id error scene = result at whole partly
  obtain ⟨_ | _, after⟩ := result
  · refine iff_of_false (fun same => ?_) (by simp)
    obtain ⟨slot, freed⟩ := (partly _ rfl).freed
    rw [← show after.1 = scene.1 from same, show after.1.running = _ from freed] at slot
    simp at slot
  · exact iff_of_true (whole rfl) (by simp)

end Report

/-- In every state that a queue comes to, and with any strategy, a report of a failed attempt is
carried out in full, or it breaks down and abandons its job; it never fails and leaves the queue as
it was. It breaks down exactly when its job is to be started again, but the strategy has no delay,
or no event loop runs, or the clock cannot count as far as the delay. -/
theorem fail_atomic_iff_no_breakdown (config : QueueConfig) (state : σ) (uses : List (Use Time σ))
    (quiet : ∀ use ∈ uses, use.around.Quiet) {around : Surroundings Time σ} (still : around.Quiet)
    (id : JobId) (error : Option String) :
    (FailsAtomically around id error (run uses (empty config, state)) ↔
      ¬ (Operation.fail id error).BreaksDown around (run uses (empty config, state))) ∧
    ((Operation.fail id error).BreaksDown around (run uses (empty config, state)) ↔
      ∃ job, (run uses (empty config, state)).1.job? id = some job ∧
        job.status = .running ∧ id ∈ (run uses (empty config, state)).1.running ∧
        job.attempts < (run uses (empty config, state)).1.budget job.workflow ∧
        ((run uses (empty config, state)).1.workflow? job.workflow).isSome ∧
        Undelayable around config job.attempts) ∧
    ((Operation.fail id error).BreaksDown around (run uses (empty config, state)) →
      Abandoned id (run uses (empty config, state)).1
        (fail around id error (run uses (empty config, state))).2.1) := by
  have sound := (sound_run config state quiet).1
  refine ⟨failsAtomically_iff still sound, ?_, ?_⟩
  · rw [run_breaksDown_iff quiet]
    constructor
    · rintro ⟨_, _, job, ⟨⟩, fails⟩
      exact ⟨job, fails⟩
    · rintro ⟨job, fails⟩
      exact ⟨id, error, job, rfl, fails⟩
  · rintro ⟨failure, breaks⟩
    exact abandoned sound breaks

/-- Quiet listeners, and no event loop; jobs are run from outside. -/
def unattended : Surroundings Nat Unit :=
  { counting with clock := none, runsJobs := false }

def patientConfig : QueueConfig where
  maxConcurrent := 1
  maxRetries := 3
  strategy := .never

/-- A job is put into the line and starts. -/
def unattendedUses : List (Use Nat Unit) :=
  [Operation.register { name := "wf", retries := some 3 }, .enqueue (.str "wf") {}].map
    (⟨unattended, ·⟩)

theorem unattendedUses_quiet : ∀ use ∈ unattendedUses, use.around.Quiet := by
  rintro use member - - -
  obtain ⟨operation, -, rfl⟩ := List.mem_map.mp member
  rfl

theorem unattended_breaksDown :
    (Operation.fail 0 (some "boom")).BreaksDown unattended
      (run unattendedUses (empty patientConfig, ())) :=
  ⟨.runtime noLoop, rfl⟩

/-- Without an event loop the report fails, and the queue is not what it was. -/
theorem unattended_failure_not_atomic :
    (∀ use ∈ unattendedUses, use.around.Quiet) ∧ unattended.Quiet ∧
      ¬ FailsAtomically unattended 0 (some "boom")
        (run unattendedUses (empty patientConfig, ())) := by
  have still : unattended.Quiet := fun _ _ _ => rfl
  refine ⟨unattendedUses_quiet, still, fun atomic => ?_⟩
  have sound := (sound_run patientConfig () unattendedUses_quiet).1
  exact (failsAtomically_iff still sound).mp atomic unattended_breaksDown

/-- Without an event loop the report abandons the job. -/
theorem unattended_failure_abandons :
    (∀ use ∈ unattendedUses, use.around.Quiet) ∧ unattended.Quiet ∧
      Abandoned 0 (run unattendedUses (empty patientConfig, ())).1
        (fail unattended 0 (some "boom") (run unattendedUses (empty patientConfig, ()))).2.1 := by
  have still : unattended.Quiet := fun _ _ _ => rfl
  refine ⟨unattendedUses_quiet, still, ?_⟩
  exact (fail_atomic_iff_no_breakdown patientConfig () unattendedUses unattendedUses_quiet still 0
    (some "boom")).2.2 unattended_breaksDown

end Orchestra.Queue
