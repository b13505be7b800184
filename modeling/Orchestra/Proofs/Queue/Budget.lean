import Orchestra.Proofs.Queue.Bookkeeping
import Orchestra.Proofs.Queue.Listeners
import Orchestra.Proofs.Queue.Runner

/-!
The budget of a workflow that is replaced while its jobs run.

Whether a job may be started again is decided when its attempt fails, by the definition that is known
then, and the job is started again later, under another definition perhaps. No job is started more
often than the most generous definition of its workflow allows, nor than once where none allows
that.
-/

namespace Orchestra

/-- How often a job of a workflow may be started, where its definition does not say by the queue. -/
def QueueConfig.allowance (config : QueueConfig) (workflow : Definition) : Int :=
  match workflow.retries with
  | some retries => retries
  | none => config.maxRetries

namespace Queue

variable {Time σ : Type} {config : QueueConfig} {name : String} {most : Int}

/-- The definitions that an operation registers under a name allow a number of attempts at most. -/
def Operation.Frugal (config : QueueConfig) (name : String) (most : Int) (operation : Operation) :
    Prop :=
  ∀ workflow, operation.Registers workflow → workflow.name = name →
    config.allowance workflow ≤ most

/-- The job was not started too often, and will not be when it is started once more. -/
structure Measured (most : Int) (job : Job) : Prop where
  bounded : (job.attempts : Int) ≤ max 1 most
  next : job.status = .pending → (job.attempts : Int) + 1 ≤ max 1 most

/-- The known definition of a workflow and all jobs of the workflow keep to a number of attempts. -/
structure Thrifty (config : QueueConfig) (name : String) (most : Int) (queue : Queue Time) :
    Prop where
  same : queue.config = config
  known : ∀ workflow, queue.workflow? name = some workflow → config.allowance workflow ≤ most
  measured : ∀ id job, queue.job? id = some job → job.workflow = name → Measured most job

section Budget

variable {queue : Queue Time}

theorem budget_of_known {workflow : Definition} (known : queue.workflow? name = some workflow) :
    queue.budget name = queue.config.allowance workflow := by
  unfold budget QueueConfig.allowance
  rw [known]
  cases retries : workflow.retries <;> simp [retries]

theorem Thrifty.budget_le (thrifty : Thrifty config name most queue)
    (known : (queue.workflow? name).isSome) : queue.budget name ≤ most := by
  obtain ⟨workflow, known⟩ := Option.isSome_iff_exists.mp known
  rw [budget_of_known known, thrifty.same]
  exact thrifty.known workflow known

/-- A job that was not started yet since it was queued by hand may be started. -/
theorem Measured.fresh {job : Job} (unstarted : job.attempts = 0) : Measured most job := by
  constructor
  · rw [unstarted]
    exact Int.le_trans (by decide) (Int.le_max_left 1 most)
  · intro _
    rw [unstarted]
    exact Int.le_max_left 1 most

theorem Measured.ended {job changed : Job} (measured : Measured most job)
    (same : changed.attempts = job.attempts) (ended : changed.status ≠ .pending) :
    Measured most changed :=
  ⟨same ▸ measured.bounded, fun waiting => (ended waiting).elim⟩

theorem Measured.left {job changed : Job} (same : changed.attempts = job.attempts)
    (left : (job.attempts : Int) < most) : Measured most changed := by
  have within : (changed.attempts : Int) + 1 ≤ most := by
    rw [same]
    exact left
  exact ⟨by omega, fun _ => by omega⟩

end Budget

section Move

variable {around : Surroundings Time σ} {operation : Operation} {queue next : Queue Time}
  {signals : List (Signal Time)}

theorem Passage.measured {id : JobId} {before after : Standing Time}
    (passage : Passage around queue id operation before signals after)
    (thrifty : Thrifty config name most queue)
    (earlier : ∀ job place, before = some (job, place) → job.workflow = name → Measured most job) :
    ∀ job place, after = some (job, place) → job.workflow = name → Measured most job := by
  cases passage with
  | stay => exact earlier
  | enqueued | renewed =>
      rintro _ _ ⟨⟩ -
      exact .fresh rfl
  | @started _ _ job waiting =>
      rintro _ _ ⟨⟩ named
      have allowed := (earlier _ _ rfl named).next waiting
      exact ⟨by simpa [Job.start] using allowed, by simp [Job.start]⟩
  | refused | cancelledRunning | cancelledWaiting | succeeded | gaveUp =>
      rintro _ _ ⟨⟩ named
      exact (earlier _ _ rfl named).ended rfl nofun
  | discarded reports cancelled | undelayable cancelled =>
      rintro _ _ ⟨⟩ named
      exact (earlier _ _ rfl named).ended rfl (by simp [noteEnd, noteError, cancelled])
  | postponed running left known | unminded running left known =>
      rintro _ _ ⟨⟩ rfl
      exact .left rfl (Int.lt_of_lt_of_le left (thrifty.budget_le known))
  | readmitted | undelayed =>
      rintro _ _ ⟨⟩ named
      exact earlier _ _ rfl named
  | dropped => simp

theorem lookup_putWorkflow_self (workflow : Definition) (workflows : List (String × Definition)) :
    (putWorkflow name workflow workflows).lookup name = some workflow := by
  induction workflows with
  | nil => simp [putWorkflow]
  | cons first rest ih =>
      obtain ⟨known, definition⟩ := first
      unfold putWorkflow
      split
      next same => simp [beq_iff_eq.mp same]
      next other =>
        have unlike : name ≠ known := fun same => other (beq_iff_eq.mpr same.symm)
        simp [List.lookup_cons, beq_false_of_ne unlike, ih]

theorem lookup_filter_self (name : String) (workflows : List (String × Definition)) :
    (workflows.filter fun entry => entry.1 != name).lookup name = none := by
  rw [List.lookup_eq_none_iff]
  intro entry kept
  have other : entry.1 ≠ name := by simpa using (List.mem_filter.mp kept).2
  exact bne_iff_ne.mpr (Ne.symm other)

/-- A definition is known after a move because it was known before, or because it was registered. -/
theorem Move.workflow?_origin (move : Move around operation queue signals next)
    {workflow : Definition} (known : next.workflow? name = some workflow) :
    queue.workflow? name = some workflow ∨ operation.Registers workflow ∧ workflow.name = name := by
  cases move with
  | registered registered registers =>
      by_cases own : registered.name = name
      · subst own
        have same : some registered = some workflow :=
          (lookup_putWorkflow_self registered queue.workflows).symm.trans known
        exact .inr (Option.some.inj same ▸ ⟨registers, rfl⟩)
      · have kept : (putWorkflow registered.name registered queue.workflows).lookup name =
            queue.workflows.lookup name := lookup_putWorkflow_other (Ne.symm own) _
        exact .inl (kept.symm.trans known)
  | @unregistered _ _ removed =>
      by_cases own : name = removed
      · subst own
        exact absurd ((lookup_filter_self name queue.workflows).symm.trans known) nofun
      · exact .inl ((lookup_filter_other own queue.workflows).symm.trans known)
  | _ => exact .inl known

theorem Thrifty.move (thrifty : Thrifty config name most queue) (sound : Sound queue)
    (move : Move around operation queue signals next)
    (frugal : operation.Frugal config name most) : Thrifty config name most next where
  same := move.config.trans thrifty.same
  known workflow known := by
    rcases move.workflow?_origin known with old | ⟨registers, named⟩
    · exact thrifty.known workflow old
    · exact frugal workflow registers named
  measured id job listed named := by
    obtain ⟨before, stands⟩ := sound.stands id
    obtain ⟨after, passage, card⟩ := move.passes sound stands
    have later : next.Stands id after := ⟨card, passage.fits stands.fits⟩
    obtain ⟨place, rfl⟩ := later.of_listed listed
    refine passage.measured thrifty (fun earlier place stood => ?_) job place rfl named
    subst stood
    exact thrifty.measured id earlier stands.job?

end Move

theorem thrifty_empty (config : QueueConfig) (name : String) (most : Int) :
    Thrifty config name most (empty config : Queue Time) where
  same := rfl
  known _ known := by cases known
  measured _ _ listed := by cases listed

/-- Jobs keep to the most generous definition of their workflow after every run, whatever listeners
do. -/
theorem thrifty_run (config : QueueConfig) (state : σ) {uses : List (Use Time σ)}
    (frugal : ∀ use ∈ uses, use.Permitted (Operation.Frugal config name most)) :
    Sound (run uses (empty config, state)).1 ∧
      Thrifty config name most (run uses (empty config, state)).1 :=
  run_holds (Thrifty config name most)
    (fun frugal sound move thrifty => thrifty.move sound move frugal) frugal
    (sound_empty config) (thrifty_empty config name most)

/-- What the report of a failed attempt makes of a running job, before anybody hears of it and before
others are admitted. -/
inductive Decision (around : Surroundings Time σ) (id : JobId) (error : Option String)
    (scene : Scene Time σ) (job : Job) : Prop where
  | backoff {next : Queue Time} {due : Time} (left : job.attempts < scene.1.budget job.workflow)
      (known : (scene.1.workflow? job.workflow).isSome)
      (waits : next.Stands id (some (putOff (noteError error job), .delay due)))
      (goes : fail around id error scene =
        (.ok (), admitAll around (next, around.mind id due scene.2)))
  | failed {next : Queue Time}
      (spent : ¬ (job.attempts < scene.1.budget job.workflow ∧
        (scene.1.workflow? job.workflow).isSome))
      (ended : next.Stands id (some ((noteError error job).giveUp around.stamp, .aside)))
      (goes : fail around id error scene =
        (.ok (), admitAll around
          (around.hear (.failed ((noteError error job).giveUp around.stamp)) (next, scene.2))))
  /-- The job was to be started again, but nothing could measure the delay. -/
  | broken {failure : Failure} (left : job.attempts < scene.1.budget job.workflow)
      (known : (scene.1.workflow? job.workflow).isSome)
      (undelayed : Undelayable around scene.1.config job.attempts)
      (breaks : (fail around id error scene).1 = .error failure)

/-- A report on a running job is decided by the definition that is known at that moment. -/
theorem fail_decides {scene : Scene Time σ} (sound : Sound scene.1)
    (around : Surroundings Time σ) (error : Option String) {id : JobId} {job : Job}
    (listed : scene.1.job? id = some job) (running : job.status = .running)
    (slot : id ∈ scene.1.running) : Decision around id error scene job := by
  obtain ⟨standing, stands⟩ := sound.stands id
  obtain rfl := stands.of_slot slot listed
  obtain ⟨queue, state⟩ := scene
  have setback := fail_spec around id error queue state
  generalize result : fail around id error (queue, state) = outcome at setback
  cases setback with
  | dismissed released => exact (Release.not_none listed running slot released).elim
  | gaveUp same _ _ spent =>
      obtain rfl := Option.some.inj (same.symm.trans listed)
      have keeps : KeepsId (·.giveUp around.stamp) := fun _ => rfl
      have passage : Passage around queue id (.fail id error) _ _ _ := .gaveUp running spent
      refine .failed spent ⟨card_setback_self stands error _ keeps, passage.fits stands.fits⟩ ?_
      rw [result, Scene.tell, job?_setback error (·.giveUp around.stamp) keeps listed]
  | postponed same _ _ left known delay timed counted =>
      obtain rfl := Option.some.inj (same.symm.trans listed)
      have passage : Passage around queue id (.fail id error) _ _ _ :=
        .postponed running left known delay timed counted
      exact .backoff left known ⟨card_postponed_self stands error _, passage.fits stands.fits⟩ result
  | undelayable same _ _ left known fault =>
      obtain rfl := Option.some.inj (same.symm.trans listed)
      exact .broken left known (.inl ⟨_, fault⟩) (congrArg Prod.fst result)
  | unminded same _ _ left known delay fault =>
      obtain rfl := Option.some.inj (same.symm.trans listed)
      exact .broken left known (.of_fault delay fault) (congrArg Prod.fst result)

/-- However a workflow is replaced, removed and registered again while its jobs run or wait, and
whatever listeners do: where all its definitions allow a number of attempts at most, no job of it was
started more often since it was queued by hand, except for once. A running job whose attempt failed
goes to a delay only if the definition of that moment allows another attempt; it fails where that
allows none, or where there is no definition. -/
theorem attempts_within_budget (config : QueueConfig) (state : σ) (name : String) (most : Int)
    {uses : List (Use Time σ)}
    (frugal : ∀ use ∈ uses, use.Permitted (Operation.Frugal config name most)) :
    (∀ id job, (run uses (empty config, state)).1.job? id = some job → job.workflow = name →
      (job.attempts : Int) ≤ max 1 most) ∧
    ∀ (around : Surroundings Time σ) (id : JobId) (error : Option String) (job : Job),
      (run uses (empty config, state)).1.job? id = some job → job.status = .running →
      id ∈ (run uses (empty config, state)).1.running →
      Decision around id error (run uses (empty config, state)) job := by
  obtain ⟨sound, thrifty⟩ := thrifty_run config state frugal
  constructor
  · intro id job listed named
    exact (thrifty.measured id job listed named).bounded
  · intro around id error job listed running slot
    exact fail_decides sound around error listed running slot

def hourlyConfig : QueueConfig where
  maxConcurrent := 1
  maxRetries := 5
  strategy := .fixed (.int 5) (.int 3600)

/-- While a job waits for its second attempt, its workflow is replaced by one that allows a single
one. -/
def redefinedUses : List (Use Nat Unit) :=
  [Operation.register { name := "wf", retries := some 3 }, .enqueue (.str "wf") {},
    .fail 0 (some "boom"), .register { name := "wf", retries := some 1 }, .wake 0].map
    (⟨counting, ·⟩)

theorem redefinedUses_frugal :
    ∀ use ∈ redefinedUses, use.Permitted (Operation.Frugal hourlyConfig "wf" 3) := by
  intro use member
  obtain ⟨operation, listed, rfl⟩ := List.mem_map.mp member
  have quiet : counting.Quiet := fun _ _ _ => rfl
  refine ⟨fun workflow registers _ => ?_, Quiet.busy quiet _⟩
  simp only [List.mem_cons, List.not_mem_nil, or_false] at listed
  rcases listed with rfl | rfl | rfl | rfl | rfl
  case inl | inr.inr.inr.inl =>
    obtain rfl := registers
    decide
  all_goals exact registers.elim

/-- The job runs its second attempt, which is within the first definition's budget, and the second
definition decides what becomes of it. -/
theorem redefined_job_is_decided :
    (∀ use ∈ redefinedUses, use.Permitted (Operation.Frugal hourlyConfig "wf" 3)) ∧
      ∃ job, (run redefinedUses (empty hourlyConfig, ())).1.job? 0 = some job ∧
        job.attempts = 2 ∧ (job.attempts : Int) ≤ max 1 3 ∧
        Decision counting 0 (some "boom") (run redefinedUses (empty hourlyConfig, ())) job := by
  obtain ⟨bounded, decided⟩ :=
    attempts_within_budget hourlyConfig () "wf" 3 redefinedUses_frugal
  have seen : ((run redefinedUses (empty hourlyConfig, ())).1.job? 0).map
      (fun job => (job.workflow, job.attempts, job.status)) = some ("wf", 2, .running) := by
    decide +kernel
  obtain ⟨job, listed, fields⟩ := Option.map_eq_some_iff.mp seen
  obtain ⟨named, twice, running⟩ : job.workflow = "wf" ∧ job.attempts = 2 ∧
      job.status = .running := by simpa using fields
  have slot : 0 ∈ (run redefinedUses (empty hourlyConfig, ())).1.running := by decide +kernel
  exact ⟨redefinedUses_frugal, job, listed, twice, bounded 0 job listed named,
    decided counting 0 (some "boom") job listed running slot⟩

end Queue

end Orchestra
