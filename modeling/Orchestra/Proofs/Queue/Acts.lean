import Orchestra.Proofs.Queue.Move

/-!
Every operation of a queue is a sequence of moves, whatever the listeners do.

A listener may use the queue itself while it is told of an event. The operation then goes on with the
queue as the listener left it.
-/

namespace Orchestra

variable {Time σ : Type}

/-- A signal reaches the surroundings; listeners may use the queue when they are told of an event. -/
def Surroundings.deliver (around : Surroundings Time σ) (scene : Scene Time σ) :
    Signal Time → Scene Time σ
  | .told event => around.hear event scene
  | .launched id workflow => (scene.1, around.launch id workflow scene.2)
  | .minded id due => (scene.1, around.mind id due scene.2)

namespace Queue

variable {around : Surroundings Time σ} {operation : Operation}

/-- Several moves of one operation, each with its signals delivered before the next one. A start tells
of the job a second time, as the listeners of the first time left it. -/
inductive Acts (around : Surroundings Time σ) (operation : Operation) :
    Scene Time σ → Scene Time σ → Prop where
  | refl (scene : Scene Time σ) : Acts around operation scene scene
  | move {queue next : Queue Time} {signals : List (Signal Time)} {state scene}
      (move : Move around operation queue signals next)
      (rest : Acts around operation (signals.foldl around.deliver (next, state)) scene) :
      Acts around operation (queue, state) scene
  | start {queue : Queue Time} {id rest workflow state scene} {job : Job}
      (line : queue.pending = id :: rest) (room : queue.hasRoom)
      (listed : queue.job? id = some job) (waiting : job.status = .pending)
      (known : queue.workflow? job.workflow = some workflow)
      (timed : around.runsJobs → around.clock.isSome) (going : queue.stopping = false)
      (later : Acts around operation
        (Queue.start around id workflow ({ queue with pending := rest }, state)) scene) :
      Acts around operation (queue, state) scene

namespace Acts

theorem trans {first second third : Scene Time σ} (before : Acts around operation first second)
    (after : Acts around operation second third) : Acts around operation first third := by
  induction before with
  | refl => exact after
  | move change _ ih => exact .move change (ih after)
  | start line room listed waiting known timed going _ ih =>
      exact .start line room listed waiting known timed going (ih after)

theorem one {queue next : Queue Time} {signals : List (Signal Time)}
    (change : Move around operation queue signals next) (state : σ) :
    Acts around operation (queue, state) (signals.foldl around.deliver (next, state)) :=
  .move change (.refl _)

end Acts

theorem job?_edit_self {id : JobId} {queue : Queue Time} {job : Job} (change : Job → Job)
    (keeps : KeepsId change) (listed : queue.job? id = some job) :
    (queue.edit id change).job? id = some (change job) := by
  simp only [job?_eq_card] at listed ⊢
  rw [card_edit_self change keeps, List.head?_map, listed]
  rfl

/-- The record of a job after the report that an attempt of it failed. -/
theorem job?_setback {id : JobId} {queue : Queue Time} {job : Job} (error : Option String)
    (change : Job → Job) (keeps : KeepsId change) (listed : queue.job? id = some job) :
    (((queue.vacate id).edit id (noteError error)).edit id change).job? id =
      some (change (noteError error job)) := by
  have noted : KeepsId (noteError error) := fun _ => rfl
  have vacated : (queue.vacate id).job? id = some job := listed
  exact job?_edit_self change keeps (job?_edit_self _ noted vacated)

/-- A move that tells one event of a job is that change and then the telling. -/
theorem Acts.tell {queue next : Queue Time} {id : JobId} {job : Job} (event : Job → Event)
    (listed : next.job? id = some job)
    (change : Move around operation queue [.told (event job)] next) (state : σ) :
    Acts around operation (queue, state) (Scene.tell around event id (next, state)) := by
  have told : Scene.tell around event id (next, state) = around.hear (event job) (next, state) := by
    simp only [Scene.tell, listed]
  rw [told]
  exact .one change state

section Admission

variable {queue : Queue Time} {id : JobId} {rest : List JobId} {job : Job}

theorem refuse_acts {error : String} (line : queue.pending = id :: rest)
    (listed : queue.job? id = some job) (waiting : job.status = .pending)
    (reason : queue.workflow? job.workflow = none ∨ around.runsJobs ∧ around.clock = none)
    (state : σ) :
    Acts around operation (queue, state)
      (refuse around id error ({ queue with pending := rest }, state)) := by
  have found : (edit id (·.refuse error around.stamp) { queue with pending := rest }).job? id =
      some (job.refuse error around.stamp) := job?_edit_self _ (fun _ => rfl) listed
  exact .tell Event.failed found (.refused line listed waiting reason) state

/-- The turn of a job that has left the line is one move. -/
theorem admitJob_acts (line : queue.pending = id :: rest) (room : queue.hasRoom)
    (going : queue.stopping = false) (state : σ) :
    Acts around operation (queue, state)
      (admitJob around id ({ queue with pending := rest }, state)) := by
  unfold admitJob
  split
  next gone =>
    have gone : queue.job? id = none := gone
    exact .one (.skipped line (by simp [gone])) state
  next job listed =>
    have listed : queue.job? id = some job := listed
    split
    next ended => exact .one (.skipped line (by simpa [listed] using ended)) state
    next waiting =>
      have waiting : job.status = .pending := by simpa using waiting
      split
      next unknown => exact refuse_acts line listed waiting (.inl unknown) state
      next workflow known =>
        split
        next untimed =>
          have untimed : around.runsJobs ∧ around.clock = none := by simpa using untimed
          exact refuse_acts line listed waiting (.inr untimed) state
        next timed =>
          refine .start line room listed waiting known ?_ going (.refl _)
          intro runs
          simpa [runs, Option.isSome_iff_ne_none] using timed

theorem admitUpTo_acts (limit : Nat) (scene : Scene Time σ) :
    Acts around operation scene (admitUpTo around limit scene) := by
  induction limit generalizing scene with
  | zero => exact .refl scene
  | succ limit ih =>
      unfold admitUpTo
      split
      next => exact .refl scene
      next id rest line =>
        split
        next => exact .refl scene
        next free =>
          obtain ⟨going, room⟩ : scene.1.stopping = false ∧ scene.1.hasRoom := by
            simpa only [Bool.or_eq_true, Bool.not_eq_true', not_or, Bool.not_eq_true,
              Bool.not_eq_false] using free
          exact (admitJob_acts line room going scene.2).trans (ih _)

theorem admitAll_acts (scene : Scene Time σ) :
    Acts around operation scene (admitAll around scene) :=
  admitUpTo_acts _ scene

end Admission

section Outcome

variable {id : JobId}

/-- What becomes of the slot of a job whose attempt is reported to have ended. -/
inductive Release (around : Surroundings Time σ) (id : JobId) (queue : Queue Time) (state : σ) :
    Option Job × Scene Time σ → Prop where
  | missing (gone : queue.job? id = none) : Release around id queue state (none, (queue, state))
  | dropped {job} (listed : queue.job? id = some job) (cancelled : job.status = .cancelled) :
      Release around id queue state
        (none, admitAll around ((queue.vacate id).edit id (noteEnd around.stamp), state))
  | counted {job} (listed : queue.job? id = some job) (running : job.status = .running)
      (slot : id ∈ queue.running) :
      Release around id queue state (some job, (queue.vacate id, state))
  | ignored {job} (listed : queue.job? id = some job) (kept : job.status ≠ .cancelled)
      (idle : ¬ (job.status = .running ∧ id ∈ queue.running)) :
      Release around id queue state (none, (queue.vacate id, state))

theorem release_spec (around : Surroundings Time σ) (id : JobId) (queue : Queue Time) (state : σ) :
    Release around id queue state (release around id (queue, state)) := by
  unfold release
  split
  next gone => exact .missing gone
  next job listed =>
    dsimp only
    split
    next cancelled => exact .dropped listed cancelled
    next kept =>
      split
      next counted =>
        have counted : job.status = .running ∧ id ∈ queue.running := by simpa using counted
        exact .counted listed counted.1 counted.2
      next idle => exact .ignored listed kept (by simpa using idle)

/-- The outcome of a running job in its slot counts. -/
theorem Release.not_none {queue : Queue Time} {state : σ} {job : Job} {outcome : Scene Time σ}
    (listed : queue.job? id = some job) (running : job.status = .running)
    (slot : id ∈ queue.running) : ¬ Release around id queue state (none, outcome) := by
  intro released
  cases released with
  | missing gone => exact absurd (gone.symm.trans listed) nofun
  | dropped same cancelled =>
      obtain rfl := Option.some.inj (same.symm.trans listed)
      exact absurd (cancelled.symm.trans running) nofun
  | ignored same _ idle =>
      obtain rfl := Option.some.inj (same.symm.trans listed)
      exact idle ⟨running, slot⟩

/-- A report is at most one move, which frees the slot of its job, before others are admitted. -/
inductive Reported (around : Surroundings Time σ) (operation : Operation) (id : JobId)
    (queue : Queue Time) (state : σ) : Scene Time σ → Prop where
  | missing (gone : queue.job? id = none) : Reported around operation id queue state (queue, state)
  | alone {next : Queue Time} (move : Move around operation queue [] next)
      (vacated : next.running = queue.running.filter (· != id)) :
      Reported around operation id queue state (next, state)
  | silent {next : Queue Time} (move : Move around operation queue [] next)
      (vacated : next.running = queue.running.filter (· != id)) :
      Reported around operation id queue state (admitAll around (next, state))
  | told {next : Queue Time} {event : Event} (move : Move around operation queue [.told event] next)
      (vacated : next.running = queue.running.filter (· != id)) :
      Reported around operation id queue state (admitAll around (around.hear event (next, state)))
  | minded {next : Queue Time} {due : Time}
      (move : Move around operation queue [.minded id due] next)
      (vacated : next.running = queue.running.filter (· != id)) :
      Reported around operation id queue state (admitAll around (next, around.mind id due state))

theorem Reported.acts {queue : Queue Time} {state : σ} {outcome : Scene Time σ}
    (reported : Reported around operation id queue state outcome) :
    Acts around operation (queue, state) outcome := by
  cases reported with
  | missing => exact .refl _
  | alone move => exact .one move state
  | silent move | told move | minded move => exact (Acts.one move state).trans (admitAll_acts _)

/-- What is told of a job in a report. -/
theorem Reported.of_told {queue next : Queue Time} {state : σ} {job : Job} (event : Job → Event)
    (listed : next.job? id = some job) (move : Move around operation queue [.told (event job)] next)
    (vacated : next.running = queue.running.filter (· != id)) :
    Reported around operation id queue state
      (admitAll around (Scene.tell around event id (next, state))) := by
  simp only [Scene.tell, listed]
  exact .told move vacated

/-- A report that does not count. -/
theorem Release.reported {outcome : Scene Time σ} (reports : operation.Reports id)
    {queue : Queue Time} {state : σ} (released : Release around id queue state (none, outcome)) :
    Reported around operation id queue state outcome := by
  cases released with
  | missing gone => exact .missing gone
  | dropped listed cancelled => exact .silent (.discarded reports listed cancelled) rfl
  | ignored listed kept idle => exact .alone (.released reports listed kept idle) rfl

theorem complete_reported (around : Surroundings Time σ) (id : JobId) (result : Value)
    (queue : Queue Time) (state : σ) :
    Reported around (.complete id result) id queue state
      (complete around id result (queue, state)) := by
  have released := release_spec around id queue state
  unfold complete
  split
  next outcome unaccounted =>
    rw [unaccounted] at released
    exact released.reported (by rfl)
  next job outcome accounted =>
    rw [accounted] at released
    cases released with
    | counted listed running slot =>
        have found : ((queue.vacate id).edit id (·.succeed result around.stamp)).job? id =
            some (job.succeed result around.stamp) := job?_edit_self _ (fun _ => rfl) listed
        exact .of_told Event.completed found (.succeeded listed running slot) rfl

/-- What becomes of a job that is to wait for the delay after its last attempt. -/
inductive Delaying (around : Surroundings Time σ) (job : Job) (queue : Queue Time) (state : σ) :
    Except Failure Unit × Scene Time σ → Prop where
  | minded {seconds now due} (delay : retryDelay queue.config job.attempts = .ok seconds)
      (timed : around.clock = some now) (counted : around.after now seconds = .ok due) :
      Delaying around job queue state
        (.ok (),
          ({ queue.edit job.id putOff with
            delayed := queue.delayed ++ [(job.id, due)] },
          around.mind job.id due state))
  | undelayable {failure} (fault : retryDelay queue.config job.attempts = .error failure) :
      Delaying around job queue state (.error failure, (queue, state))
  | unminded {seconds failure} (delay : retryDelay queue.config job.attempts = .ok seconds)
      (fault : ∀ now, around.clock = some now → around.after now seconds = .error failure) :
      Delaying around job queue state
        (.error failure, (queue.edit job.id putOff, state))

theorem delay_spec (around : Surroundings Time σ) (job : Job) (queue : Queue Time) (state : σ) :
    Delaying around job queue state (delay around job (queue, state)) := by
  unfold delay
  split
  next failure fault => exact .undelayable fault
  next seconds delay =>
    dsimp only
    split
    next untimed => exact .unminded delay (by simp [untimed])
    next now timed =>
      split
      next failure fault => exact .unminded delay (by simp [timed, fault])
      next due counted => exact .minded delay timed counted

/-- What becomes of a job whose attempt is reported to have failed. -/
inductive Setback (around : Surroundings Time σ) (id : JobId) (error : Option String)
    (queue : Queue Time) (state : σ) : Except Failure Unit × Scene Time σ → Prop where
  | dismissed {outcome} (released : Release around id queue state (none, outcome)) :
      Setback around id error queue state (.ok (), outcome)
  | gaveUp {job : Job} (listed : queue.job? id = some job) (running : job.status = .running)
      (slot : id ∈ queue.running)
      (spent : ¬ (job.attempts < queue.budget job.workflow ∧
        (queue.workflow? job.workflow).isSome)) :
      Setback around id error queue state
        (.ok (), admitAll around (Scene.tell around .failed id
          (((queue.vacate id).edit id (noteError error)).edit id (·.giveUp around.stamp), state)))
  | postponed {job : Job} {seconds now due} (listed : queue.job? id = some job)
      (running : job.status = .running) (slot : id ∈ queue.running)
      (left : job.attempts < queue.budget job.workflow)
      (known : (queue.workflow? job.workflow).isSome)
      (delay : retryDelay queue.config job.attempts = .ok seconds)
      (timed : around.clock = some now) (counted : around.after now seconds = .ok due) :
      Setback around id error queue state
        (.ok (), admitAll around
          ({ ((queue.vacate id).edit id (noteError error)).edit id putOff with
            delayed := queue.delayed ++ [(id, due)] },
          around.mind id due state))
  | undelayable {job : Job} {failure} (listed : queue.job? id = some job)
      (running : job.status = .running) (slot : id ∈ queue.running)
      (left : job.attempts < queue.budget job.workflow)
      (known : (queue.workflow? job.workflow).isSome)
      (fault : retryDelay queue.config job.attempts = .error failure) :
      Setback around id error queue state
        (.error failure, ((queue.vacate id).edit id (noteError error), state))
  | unminded {job : Job} {seconds failure} (listed : queue.job? id = some job)
      (running : job.status = .running) (slot : id ∈ queue.running)
      (left : job.attempts < queue.budget job.workflow)
      (known : (queue.workflow? job.workflow).isSome)
      (delay : retryDelay queue.config job.attempts = .ok seconds)
      (fault : ∀ now, around.clock = some now → around.after now seconds = .error failure) :
      Setback around id error queue state
        (.error failure,
          (((queue.vacate id).edit id (noteError error)).edit id putOff, state))

theorem fail_spec (around : Surroundings Time σ) (id : JobId) (error : Option String)
    (queue : Queue Time) (state : σ) :
    Setback around id error queue state (fail around id error (queue, state)) := by
  have released := release_spec around id queue state
  unfold fail
  split
  next outcome unaccounted =>
    rw [unaccounted] at released
    exact .dismissed released
  next job outcome accounted =>
    rw [accounted] at released
    cases released with
    | counted listed running slot =>
        obtain rfl : job.id = id := job?_id listed
        dsimp only
        split
        next again =>
          have again : (decide ((job.attempts : Int) < queue.budget job.workflow) &&
              (queue.workflow? job.workflow).isSome) = true := again
          obtain ⟨left, known⟩ := by simpa using again
          have delayed := delay_spec around job
            ((queue.vacate job.id).edit job.id (noteError error)) state
          split
          next failure last broken =>
            replace delayed : Delaying around job _ state (.error failure, last) := broken ▸ delayed
            cases delayed with
            | undelayable fault => exact .undelayable listed running slot left known fault
            | unminded delay fault => exact .unminded listed running slot left known delay fault
          next last postponed =>
            replace delayed : Delaying around job _ state (.ok (), last) := postponed ▸ delayed
            cases delayed with
            | minded delay timed counted =>
                exact .postponed listed running slot left known delay timed counted
        next spent =>
          have spent : ¬ (decide ((job.attempts : Int) < queue.budget job.workflow) &&
              (queue.workflow? job.workflow).isSome) = true := spent
          exact .gaveUp listed running slot (by simpa using spent)

theorem fail_reported (around : Surroundings Time σ) (id : JobId) (error : Option String)
    (queue : Queue Time) (state : σ) :
    Reported around (.fail id error) id queue state (fail around id error (queue, state)).2 := by
  have setback := fail_spec around id error queue state
  generalize fail around id error (queue, state) = result at setback
  cases setback with
  | dismissed released => exact released.reported (by rfl)
  | gaveUp listed running slot spent =>
      have found := job?_setback error (·.giveUp around.stamp) (fun _ => rfl) listed
      exact .of_told Event.failed found (.gaveUp listed running slot spent) rfl
  | postponed listed running slot left known delay timed counted =>
      exact .minded (.postponed listed running slot left known delay timed counted) rfl
  | undelayable listed running slot left known =>
      exact .alone (.undelayable listed running slot left known) rfl
  | unminded listed running slot left known =>
      exact .alone (.unminded listed running slot left known) rfl

end Outcome

section Control

theorem register_acts (workflow : Definition) (registers : operation.Registers workflow)
    (scene : Scene Time σ) :
    Acts around operation scene (register around workflow scene).2 := by
  unfold register
  split
  · exact .refl scene
  · exact .one (.registered workflow registers) scene.2

theorem registerValue_acts (data : Value) (scene : Scene Time σ) :
    Acts around (.registerValue data) scene (registerValue around data scene).2 := by
  unfold registerValue
  split
  · split
    next workflow described =>
      have registers : Operation.Registers workflow (.registerValue (.obj _)) := described
      exact register_acts workflow registers scene
    · exact .refl scene
  · exact .refl scene

theorem unregister_acts (name : String) (scene : Scene Time σ) :
    Acts around operation scene (unregister around name scene).2 := by
  unfold unregister
  split
  · exact .refl scene
  next known => exact .one (.unregistered known) scene.2

/-- A new job is told of as itself where its number is new. -/
theorem enqueue_acts (name : String) (context : Context) {scene : Scene Time σ}
    (fresh : scene.1.job? scene.1.issued = none) :
    Acts around operation scene (enqueue around name context scene).2 := by
  obtain ⟨queue, state⟩ := scene
  unfold enqueue
  split
  · exact .refl _
  next going =>
    split
    · exact .refl _
    next workflow known =>
      split
      · exact .refl _
      · have going : queue.stopping = false := by simpa using going
        have found : ({ queue with
            jobs := queue.jobs ++ [queue.newJob name context around.stamp]
            pending := queue.pending ++ [queue.issued]
            issued := queue.issued + 1 } : Queue Time).job? queue.issued =
              some (queue.newJob name context around.stamp) := by
          have fresh : queue.jobs.find? (fun job => job.id == queue.issued) = none := fresh
          simp [job?, List.find?_append, fresh, newJob]
        exact (Acts.tell Event.enqueued found (.enqueued going known) state).trans (admitAll_acts _)

theorem enqueueValue_acts (name : Value) (context : Context) {scene : Scene Time σ}
    (fresh : scene.1.job? scene.1.issued = none) :
    Acts around operation scene (enqueueValue around name context scene).2 := by
  unfold enqueueValue
  split
  · exact enqueue_acts _ context fresh
  · split <;> exact .refl scene

theorem cancel_acts (id : JobId) (scene : Scene Time σ) :
    Acts around (.cancel id) scene (cancel around id scene).2 := by
  obtain ⟨queue, state⟩ := scene
  unfold cancel
  split
  · exact .refl _
  next job listed =>
    split
    next running =>
      have found : (queue.edit id fun job => { job with status := .cancelled }).job? id =
          some { job with status := .cancelled } := job?_edit_self _ (fun _ => rfl) listed
      exact Acts.tell Event.cancelled found (.cancelledRunning listed running) state
    next waiting =>
      have found : (undelay id { queue.edit id (callOff around.stamp) with
          pending := queue.pending.erase id }).job? id = some (callOff around.stamp job) :=
        job?_edit_self _ (fun _ => rfl) listed
      exact Acts.tell Event.cancelled found (.cancelledWaiting listed waiting) state
    all_goals exact .refl _

theorem retry_acts (id : JobId) (scene : Scene Time σ) :
    Acts around (.retry id) scene (retry around id scene).2 := by
  obtain ⟨queue, state⟩ := scene
  unfold retry
  split
  · exact .refl _
  next job listed =>
    split
    · exact .refl _
    next failed =>
      split
      · exact .refl _
      next free =>
        have failed : job.status = .failed := by simpa using failed
        have going : queue.stopping = false := by simpa using free
        have found : ((queue.edit id Job.renew).append id).job? id = some job.renew :=
          job?_edit_self _ (fun _ => rfl) listed
        exact (Acts.tell Event.retried found (.renewed listed failed going) state).trans
          (admitAll_acts _)

theorem wake_acts (id : JobId) (scene : Scene Time σ) :
    Acts around (.wake id) scene (wake around id scene) := by
  obtain ⟨queue, state⟩ := scene
  unfold wake
  split
  next armed =>
    dsimp only
    split
    next gone =>
      have gone : queue.job? id = none := gone
      exact .one (.forgotten (by simp [gone])) state
    next job listed =>
      have listed : queue.job? id = some job := listed
      split
      next ended => exact .one (.forgotten (by simpa [listed] using ended)) state
      next waiting =>
        have waiting : job.status = .pending := by simpa using waiting
        have found : ((queue.undelay id).append id).job? id = some job := listed
        exact (Acts.tell Event.readmitted found (.readmitted armed listed waiting) state).trans
          (admitAll_acts _)
  · exact .refl _

theorem cleanup_acts (age : Value) (scene : Scene Time σ) :
    Acts around (.cleanup age) scene (cleanup around age scene).2 := by
  obtain ⟨queue, state⟩ := scene
  unfold cleanup
  split
  · exact .refl _
  · split
    · exact .refl _
    next cutoff _ =>
      simp only [dropStale]
      split
      · exact .one (.cleaned cutoff [] (by simp)) state
      · exact .one (.cleaned cutoff [.told (.cleaned _)] (by simp)) state

/-- Every operation is a sequence of moves. -/
theorem Operation.acts (operation : Operation) {scene : Scene Time σ}
    (fresh : scene.1.job? scene.1.issued = none) :
    Acts around operation scene (operation.apply around scene) := by
  cases operation with
  | register workflow =>
      have registers : Operation.Registers workflow (.register workflow) := rfl
      exact register_acts workflow registers scene
  | registerValue data => exact registerValue_acts data scene
  | unregister name => exact unregister_acts name scene
  | enqueue name context => exact enqueueValue_acts name context fresh
  | cancel id => exact cancel_acts id scene
  | retry id => exact retry_acts id scene
  | complete id result => exact (complete_reported around id result scene.1 scene.2).acts
  | fail id error => exact (fail_reported around id error scene.1 scene.2).acts
  | wake id => exact wake_acts id scene
  | cleanup age => exact cleanup_acts age scene
  | stop => exact .one .stopped scene.2

end Control

/-- What every move and every start preserve is preserved by every operation. -/
theorem Acts.preserves (Holds : Scene Time σ → Prop) {first last : Scene Time σ}
    (acts : Acts around operation first last)
    (moves : ∀ {queue signals next} (state : σ), Move around operation queue signals next →
      Holds (queue, state) → Holds (signals.foldl around.deliver (next, state)))
    (starts : ∀ {queue id rest workflow} {job : Job} (state : σ), queue.pending = id :: rest →
      queue.hasRoom → queue.job? id = some job → job.status = .pending →
      queue.workflow? job.workflow = some workflow →
      (around.runsJobs → around.clock.isSome) → queue.stopping = false → Holds (queue, state) →
      Holds (Queue.start around id workflow ({ queue with pending := rest }, state)))
    (holds : Holds first) : Holds last := by
  induction acts with
  | refl => exact holds
  | move change _ ih => exact ih (moves _ change holds)
  | start line room listed waiting known timed going _ ih =>
      exact ih (starts _ line room listed waiting known timed going holds)

end Queue

end Orchestra

/-!
Every operation of a queue with quiet listeners is a sequence of moves whose signals are received.
-/

namespace Orchestra.Queue

variable {Time σ : Type} {around : Surroundings Time σ} {operation : Operation}

theorem tell_eq (quiet : around.Quiet) {queue : Queue Time} {state : σ} {id : JobId} {job : Job}
    (event : Job → Event) (listed : queue.job? id = some job) :
    Scene.tell around event id (queue, state) =
      (queue, around.receive queue state (.told (event job))) := by
  simp only [Scene.tell, listed]
  exact quiet.hear_eq (event job) queue state

/-- Telling quiet listeners leaves the queue alone. -/
theorem tell_fst (quiet : around.Quiet) (event : Job → Event) (id : JobId)
    (scene : Scene Time σ) : (Scene.tell around event id scene).1 = scene.1 := by
  unfold Scene.tell
  split
  · exact quiet _ scene.1 scene.2
  · rfl

theorem start_moves (quiet : around.Quiet) {queue : Queue Time} {id : JobId} {rest : List JobId}
    {job : Job} {workflow : Definition} (line : queue.pending = id :: rest) (room : queue.hasRoom)
    (listed : queue.job? id = some job) (waiting : job.status = .pending)
    (known : queue.workflow? job.workflow = some workflow)
    (timed : around.runsJobs → around.clock.isSome) (going : queue.stopping = false) (state : σ) :
    Moves around operation (queue, state)
      (start around id workflow ({ queue with pending := rest }, state)) := by
  have found : ((edit id (·.start around.stamp) { queue with pending := rest }).occupy id).job? id =
      some (job.start around.stamp) := job?_edit_self _ (fun _ => rfl) listed
  have moves : Moves around operation (queue, state) _ :=
    .one (.started line room listed waiting known timed going)
  simp only [start, Scene.edit]
  rw [tell_eq quiet Event.started found, tell_eq quiet (Event.execute · workflow) found]
  cases runs : around.runsJobs <;> simpa [runs, Surroundings.receive] using moves

/-- What is delivered to quiet listeners is received. -/
theorem foldl_deliver (quiet : around.Quiet) (queue : Queue Time) (signals : List (Signal Time))
    (state : σ) : signals.foldl around.deliver (queue, state) =
      (queue, signals.foldl (around.receive queue) state) := by
  induction signals generalizing state with
  | nil => rfl
  | cons signal rest ih =>
      have received : around.deliver (queue, state) signal =
          (queue, around.receive queue state signal) := by
        cases signal with
        | told event => exact quiet.hear_eq event queue state
        | launched => rfl
        | minded => rfl
      rw [List.foldl_cons, List.foldl_cons, received, ih]

/-- With quiet listeners a start is a move like any other. -/
theorem Acts.moves (quiet : around.Quiet) {first last : Scene Time σ}
    (acts : Acts around operation first last) : Moves around operation first last := by
  induction acts with
  | refl scene => exact .refl scene
  | move change _ ih =>
      rw [foldl_deliver quiet] at ih
      exact .step change ih
  | start line room listed waiting known timed going _ ih =>
      exact (start_moves quiet line room listed waiting known timed going _).trans ih

section Operations

variable (quiet : around.Quiet)

include quiet

theorem admitAll_moves (scene : Scene Time σ) :
    Moves around operation scene (admitAll around scene) :=
  (admitAll_acts scene).moves quiet

/-- A report that does not count is at most one move before the admission. -/
theorem release_moves (id : JobId) {outcome : Scene Time σ}
    (reports : operation.Reports id) {queue : Queue Time} {state : σ}
    (released : Release around id queue state (none, outcome)) :
    Moves around operation (queue, state) outcome :=
  (released.reported reports).acts.moves quiet

theorem complete_moves (id : JobId) (result : Value) (scene : Scene Time σ) :
    Moves around (.complete id result) scene (complete around id result scene) :=
  (complete_reported around id result scene.1 scene.2).acts.moves quiet

theorem fail_moves (id : JobId) (error : Option String) (scene : Scene Time σ) :
    Moves around (.fail id error) scene (fail around id error scene).2 :=
  (fail_reported around id error scene.1 scene.2).acts.moves quiet

/-- A new job is told of as itself where its number is new. -/
theorem enqueue_moves (name : String) (context : Context)
    {scene : Scene Time σ} (fresh : scene.1.job? scene.1.issued = none) :
    Moves around operation scene (enqueue around name context scene).2 :=
  (enqueue_acts name context fresh).moves quiet

theorem wake_moves (id : JobId) (scene : Scene Time σ) :
    Moves around (.wake id) scene (wake around id scene) :=
  (wake_acts id scene).moves quiet

/-- Every operation is a sequence of moves. -/
theorem Operation.moves (operation : Operation) {scene : Scene Time σ}
    (fresh : scene.1.job? scene.1.issued = none) :
    Moves around operation scene (operation.apply around scene) :=
  (operation.acts fresh).moves quiet

end Operations

/-- What every move preserves is preserved by every operation. -/
theorem Moves.preserves (Holds : Scene Time σ → Prop) {first last : Scene Time σ}
    (moves : Moves around operation first last)
    (preserves : ∀ {queue signals next} (state : σ), Move around operation queue signals next →
      Holds (queue, state) → Holds (next, signals.foldl (around.receive next) state))
    (holds : Holds first) : Holds last := by
  induction moves with
  | refl => exact holds
  | step move _ ih => exact ih (preserves _ move holds)

end Orchestra.Queue
