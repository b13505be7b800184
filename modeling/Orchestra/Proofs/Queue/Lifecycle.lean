import Orchestra.Proofs.Queue.Passage

/-!
The life of a job.

A listener that writes down what it is told of a job sees the word of an automaton, and the state of
the automaton is the status of the job. A completed or cancelled job keeps its result and its error
whatever is reported later, and a failed one until it is queued again by hand.
-/

namespace Orchestra

variable {Time σ : Type}

/-- What a listener was told, the queue at that time, and whether an event loop was running. -/
structure Told (Time : Type) where
  event : Event
  queue : Queue Time
  timed : Bool

/-- The same surroundings with a listener that writes down what it is told. -/
def Surroundings.watched (around : Surroundings Time σ) : Surroundings Time (List (Told Time)) where
  stamp := around.stamp
  clock := around.clock
  after := around.after
  runsJobs := around.runsJobs
  hear event scene := (scene.1, scene.2 ++ [⟨event, scene.1, around.clock.isSome⟩])
  launch _ _ log := log
  mind _ _ log := log

theorem Surroundings.watched_quiet (around : Surroundings Time σ) : around.watched.Quiet :=
  fun _ _ _ => rfl

namespace Queue

/-- A use of a queue that a listener watches. -/
def Use.watched (use : Use Time σ) : Use Time (List (Told Time)) :=
  ⟨use.around.watched, use.operation⟩

/-- A queue and the log of its listener after a number of operations. -/
def watch (config : QueueConfig) (uses : List (Use Time σ)) : Scene Time (List (Told Time)) :=
  run (uses.map Use.watched) (empty config, [])

/-- What was told of a job. -/
def journalOf (id : JobId) (log : List (Told Time)) : List (Told Time) :=
  log.filter fun told => told.event.job?.any fun job => job.id == id

/-- The states of the life of a job. -/
inductive Phase where
  | unborn
  | queued
  /-- The start was told, and the call to run the job is about to be. -/
  | starting
  | running
  | waiting
  | completed
  | failed
  | cancelled
deriving DecidableEq, Repr

/-- The status of a job in a state of its life; none before it has one. -/
def Phase.status? : Phase → Option JobStatus
  | .unborn => none
  | .queued | .waiting => some .pending
  | .starting | .running => some .running
  | .completed => some .completed
  | .failed => some .failed
  | .cancelled => some .cancelled

/-- The life of a job as far as it was told. -/
inductive Life : List (Told Time) → Phase → Prop where
  | unborn : Life [] .unborn
  | enqueued {past told job} (life : Life past .unborn) (event : told.event = .enqueued job) :
      Life (past ++ [told]) .queued
  | started {past told job} (life : Life past .queued) (event : told.event = .started job) :
      Life (past ++ [told]) .starting
  | execute {past told job workflow} (life : Life past .starting)
      (event : told.event = .execute job workflow) : Life (past ++ [told]) .running
  /-- An attempt failed, and the job is to be started again; nobody is told. -/
  | relieved {past} (life : Life past .running) : Life past .waiting
  | readmitted {past told job} (life : Life past .waiting)
      (event : told.event = .readmitted job) : Life (past ++ [told]) .queued
  | completed {past told job} (life : Life past .running) (event : told.event = .completed job) :
      Life (past ++ [told]) .completed
  | failed {past told job} (life : Life past .running) (event : told.event = .failed job) :
      Life (past ++ [told]) .failed
  /-- A job that never began fails where its workflow is gone or no event loop is running. -/
  | refused {past told job} (life : Life past .queued) (event : told.event = .failed job)
      (reason : told.queue.workflow? job.workflow = none ∨ told.timed = false) :
      Life (past ++ [told]) .failed
  | cancelled {past told job phase} (life : Life past phase)
      (going : phase = .queued ∨ phase = .running ∨ phase = .waiting)
      (event : told.event = .cancelled job) : Life (past ++ [told]) .cancelled
  | retried {past told job} (life : Life past .failed) (event : told.event = .retried job) :
      Life (past ++ [told]) .queued

/-- The state of the life of a job that stands so. -/
def phaseOf (job : Job) (place : Place Time) : Phase :=
  match place, job.status with
  | .line, _ => .queued
  | _, .pending => .waiting
  | _, .running => .running
  | _, .completed => .completed
  | _, .failed => .failed
  | _, .cancelled => .cancelled

/-- A job has a life, in the state that its record and its place show. A job without a record was
not yet queued, or it came to its end and was dropped. -/
def Lives (id : JobId) (scene : Scene Time (List (Told Time))) : Standing Time → Prop
  | some (job, place) => id < scene.1.issued ∧ Life (journalOf id scene.2) (phaseOf job place)
  | none => (scene.1.issued ≤ id → journalOf id scene.2 = []) ∧
    ∃ phase, Life (journalOf id scene.2) phase ∧ phase.status?.all JobStatus.isTerminal

section Journal

variable {around : Surroundings Time σ} {id : JobId} {queue : Queue Time}

/-- What a listener writes down of a signal. -/
def noted (timed : Bool) (queue : Queue Time) : Signal Time → List (Told Time)
  | .told event => [⟨event, queue, timed⟩]
  | _ => []

theorem watched_foldl (signals : List (Signal Time)) (log : List (Told Time)) :
    signals.foldl (around.watched.receive queue) log =
      log ++ signals.flatMap (noted around.clock.isSome queue) := by
  induction signals generalizing log with
  | nil => simp
  | cons signal rest ih =>
      rw [List.foldl_cons, ih, List.flatMap_cons, ← List.append_assoc]
      cases signal <;> simp [Surroundings.receive, Surroundings.watched, noted]

/-- Only the signals that concern a job show in what is told of it. -/
theorem journalOf_noted (timed : Bool) (signals : List (Signal Time)) :
    journalOf id (signals.flatMap (noted timed queue)) =
      (signals.filter (·.concerns id)).flatMap (noted timed queue) := by
  induction signals with
  | nil => rfl
  | cons signal rest ih =>
      have first : journalOf id (noted timed queue signal) =
          if signal.concerns id then noted timed queue signal else [] := by
        cases signal with
        | told event => exact List.filter_cons
        | launched | minded => simp [journalOf, noted]
      rw [List.flatMap_cons, List.filter_cons, journalOf, List.filter_append]
      change journalOf id _ ++ journalOf id _ = _
      rw [first, ih]
      split <;> simp

theorem journalOf_foldl (around : Surroundings Time σ) (id : JobId) (queue : Queue Time)
    (signals : List (Signal Time)) (log : List (Told Time)) :
    journalOf id (signals.foldl (around.watched.receive queue) log) =
      journalOf id log ++
        (signals.filter (·.concerns id)).flatMap (noted around.clock.isSome queue) := by
  rw [watched_foldl, ← journalOf_noted]
  exact List.filter_append ..

end Journal

section Move

variable {around : Surroundings Time σ} {operation : Operation} {queue next : Queue Time}
  {signals : List (Signal Time)} {id : JobId} {before after : Standing Time}

theorem Lives.phase {log : List (Told Time)} {job : Job} {place : Place Time}
    (lives : Lives id (queue, log) (some (job, place))) (phase : Phase)
    (shown : phaseOf job place = phase) : Life (journalOf id log) phase :=
  shown ▸ lives.2

/-- The life of a job goes on with each of its passages. -/
theorem Passage.lives {log : List (Told Time)}
    (move : Move around.watched operation queue signals next)
    (passage : Passage around.watched queue id operation before
      (signals.filter (·.concerns id)) after)
    (fits : Fits id before) (lives : Lives id (queue, log) before) :
    Lives id (next, signals.foldl (around.watched.receive next) log) after := by
  have grown := journalOf_foldl around id next signals log
  obtain ⟨later, issued⟩ := move.issued
  have known := move.workflow? id
  generalize sent : signals.filter (·.concerns id) = own at passage grown known
  have carry : id < queue.issued → id < next.issued := fun old => Nat.lt_of_lt_of_le old later
  cases passage with
  | stay =>
      simp only [List.flatMap_nil, List.append_nil] at grown
      cases before with
      | none =>
          refine ⟨fun unissued => ?_, grown ▸ lives.2⟩
          exact grown.trans (lives.1 (Nat.le_trans later unissued))
      | some => exact ⟨carry lives.1, grown ▸ lives.2⟩
  | enqueued new =>
      have told := (List.mem_filter.mp (sent ▸ List.mem_singleton_self _)).1
      rw [lives.1 (Nat.le_of_eq new.symm)] at grown
      refine ⟨?_, grown ▸ .enqueued .unborn rfl⟩
      show id < next.issued
      rw [issued _ told, new]
      exact Nat.lt_succ_self _
  | @started _ workflow job waiting =>
      have both : journalOf id (signals.foldl (around.watched.receive next) log) =
          journalOf id log ++
            [⟨.started (job.start around.watched.stamp), next, around.clock.isSome⟩] ++
            [⟨.execute (job.start around.watched.stamp) workflow, next, around.clock.isSome⟩] := by
        rw [grown]
        cases around.watched.runsJobs <;> simp [noted]
      have life := lives.phase .queued rfl
      exact ⟨carry lives.1, both ▸ .execute (.started life rfl) rfl⟩
  | @refused _ _ job waiting reason =>
      have life := lives.phase .queued rfl
      refine ⟨carry lives.1, grown ▸ .refused life rfl ?_⟩
      rcases reason with gone | ⟨-, untimed⟩
      · exact .inl ((known (by simp) job.workflow).trans gone)
      · exact .inr (by simpa [Surroundings.watched] using untimed)
  | @cancelledRunning place job running =>
      have held := fits.2
      refine ⟨carry lives.1, ?_⟩
      cases place with
      | line | delay => simp [running] at held
      | slot | aside =>
          have life := lives.phase .running (by simp [phaseOf, running])
          exact grown ▸ .cancelled life (.inr (.inl rfl)) rfl
  | @cancelledWaiting place job waiting =>
      refine ⟨carry lives.1, ?_⟩
      cases place with
      | line => exact grown ▸ .cancelled (lives.phase .queued rfl) (.inl rfl) rfl
      | slot | delay | aside =>
          have life := lives.phase .waiting (by simp [phaseOf, waiting])
          exact grown ▸ .cancelled life (.inr (.inr rfl)) rfl
  | renewed failed =>
      have life := lives.phase .failed (by simp [phaseOf, failed])
      exact ⟨carry lives.1, grown ▸ .retried life rfl⟩
  | @discarded _ place job reports cancelled =>
      simp only [List.flatMap_nil, List.append_nil] at grown
      have held := fits.2
      have shown : phaseOf (noteEnd around.watched.stamp job) (.aside : Place Time) =
          .cancelled := by
        simp [phaseOf, noteEnd, cancelled]
      refine ⟨carry lives.1, ?_⟩
      cases place with
      | line | delay => simp [cancelled] at held
      | slot | aside =>
          rw [shown, grown]
          exact lives.phase .cancelled (by simp [phaseOf, cancelled])
  | succeeded running =>
      have life := lives.phase .running (by simp [phaseOf, running])
      exact ⟨carry lives.1, grown ▸ .completed life rfl⟩
  | gaveUp running =>
      have life := lives.phase .running (by simp [phaseOf, running])
      exact ⟨carry lives.1, grown ▸ .failed life rfl⟩
  | postponed running | unminded running =>
      have life := lives.phase .running (by simp [phaseOf, running])
      simp only [noted, List.flatMap_cons, List.flatMap_nil, List.append_nil] at grown
      exact ⟨carry lives.1, grown ▸ .relieved life⟩
  | @undelayable error job running =>
      simp only [List.flatMap_nil, List.append_nil] at grown
      have shown : phaseOf (noteError error job) (.aside : Place Time) = .running := by
        simp [phaseOf, noteError, running]
      refine ⟨carry lives.1, ?_⟩
      rw [shown, grown]
      exact lives.phase .running (by simp [phaseOf, running])
  | readmitted waiting =>
      have life := lives.phase .waiting (by simp [phaseOf, waiting])
      exact ⟨carry lives.1, grown ▸ .readmitted life rfl⟩
  | @dropped _ job ended =>
      simp only [List.flatMap_nil, List.append_nil] at grown
      refine ⟨fun unissued => ?_, phaseOf job .aside, grown ▸ lives.2, ?_⟩
      · exact absurd lives.1 (Nat.not_lt.mpr (Nat.le_trans later unissued))
      · cases status : job.status <;> simp_all [phaseOf, Phase.status?, JobStatus.isTerminal]
  | @undelayed _ job =>
      simp only [List.flatMap_nil, List.append_nil] at grown
      have waiting : job.status = .pending := fits.2.1
      have shown : phaseOf job (.aside : Place Time) = .waiting := by simp [phaseOf, waiting]
      refine ⟨carry lives.1, ?_⟩
      rw [shown, grown]
      exact lives.phase .waiting (by simp [phaseOf, waiting])

/-- A job that has come to its end keeps its outcome as long as it has a record. -/
def Concluded (id : JobId) (outcome : Job) (scene : Scene Time σ) (standing : Standing Time) :
    Prop :=
  id < scene.1.issued ∧ ∀ job place, standing = some (job, place) →
    job.status = outcome.status ∧ job.result = outcome.result ∧ job.error = outcome.error

/-- Nothing but a retry takes a job back from its end. -/
theorem Passage.concluded {outcome : Job} {state : σ}
    (move : Move around operation queue signals next)
    (passage : Passage around queue id operation before (signals.filter (·.concerns id)) after)
    (fits : Fits id before) (ended : outcome.status.isTerminal)
    (final : outcome.status = .failed → operation ≠ .retry id)
    (concluded : Concluded id outcome (queue, state) before) (later : σ) :
    Concluded id outcome (next, later) after := by
  obtain ⟨old, same⟩ := concluded
  refine ⟨Nat.lt_of_lt_of_le old move.issued.1, ?_⟩
  have ended : ∀ job place, before = some (job, place) →
      job.status ≠ .pending ∧ job.status ≠ .running := by
    intro job place stands
    rw [(same job place stands).1]
    constructor <;> rintro status <;> simp [status, JobStatus.isTerminal] at ended
  generalize signals.filter (·.concerns id) = own at passage
  cases passage with
  | stay => exact same
  | enqueued new => exact absurd new (Nat.ne_of_lt old)
  | started waiting | refused waiting | cancelledWaiting waiting | readmitted waiting =>
      exact ((ended _ _ rfl).1 waiting).elim
  | cancelledRunning running | succeeded running | gaveUp running | postponed running
  | undelayable running | unminded running => exact ((ended _ _ rfl).2 running).elim
  | renewed failed => exact (final ((same _ _ rfl).1.symm.trans failed) rfl).elim
  | discarded =>
      obtain ⟨status, result, error⟩ := same _ _ rfl
      rintro _ _ ⟨⟩
      exact ⟨status, result, error⟩
  | dropped => simp
  | undelayed => exact ((ended _ _ rfl).1 fits.2.1).elim

end Move

section Watch

variable {around : Surroundings Time σ} {operation : Operation} {id : JobId}

theorem watch_append (config : QueueConfig) (first second : List (Use Time σ)) :
    watch config (first ++ second) = run (second.map Use.watched) (watch config first) := by
  simp [watch]

theorem watched_quiet (uses : List (Use Time σ)) :
    ∀ use ∈ uses.map Use.watched, use.around.Quiet := by
  intro use member
  obtain ⟨use, -, rfl⟩ := List.mem_map.mp member
  exact use.around.watched_quiet

theorem watch_sound (config : QueueConfig) (uses : List (Use Time σ)) :
    Sound (watch config uses).1 :=
  (sound_run config [] (watched_quiet uses)).1

/-- What is told of a job after any run is a life of the job. -/
theorem watch_lives (config : QueueConfig) (uses : List (Use Time σ)) (id : JobId) :
    ∃ standing, (watch config uses).1.Stands id standing ∧
      Lives id (watch config uses) standing := by
  have kept : Sound (watch config uses).1 ∧ ∃ standing,
      (watch config uses).1.Stands id standing ∧ Lives id (watch config uses) standing := by
    apply run_preserves fun scene : Scene Time (List (Told Time)) =>
      Sound scene.1 ∧ ∃ standing, scene.1.Stands id standing ∧ Lives id scene standing
    · rintro use member scene ⟨sound, standing, stands, lives⟩
      obtain ⟨use, -, rfl⟩ := List.mem_map.mp member
      have moves := Operation.moves use.around.watched_quiet use.operation sound.fresh
      exact moves.follow (Lives id) sound stands lives fun log move passage fits lives =>
        passage.lives move fits lives
    · refine ⟨sound_empty config, none, (sound_empty config).unissued id (Nat.zero_le id), ?_⟩
      exact ⟨fun _ => rfl, .unborn, .unborn, rfl⟩
  exact kept.2

theorem Sound.issued_of_listed {queue : Queue Time} (sound : Sound queue) {job : Job}
    (listed : queue.job? id = some job) : id < queue.issued := by
  refine Nat.lt_of_not_le fun unissued => ?_
  simp [(sound.unissued id unissued).job?] at listed

/-- What a job came to stays, until it is dropped or a failed one is queued again by hand. -/
theorem concluded_of_moves {scene last : Scene Time σ}
    (moves : Moves around operation scene last) (sound : Sound scene.1) {outcome : Job}
    (ended : outcome.status.isTerminal)
    (final : outcome.status = .failed → operation ≠ .retry id)
    (concluded : ∃ standing, scene.1.Stands id standing ∧ Concluded id outcome scene standing) :
    Sound last.1 ∧
      ∃ standing, last.1.Stands id standing ∧ Concluded id outcome last standing := by
  obtain ⟨standing, stands, concluded⟩ := concluded
  exact moves.follow (Concluded id outcome) sound stands concluded
    fun state move passage fits concluded => passage.concluded move fits ended final concluded _

theorem concluded_self {scene : Scene Time σ} (sound : Sound scene.1) {outcome : Job}
    (listed : scene.1.job? id = some outcome) :
    ∃ standing, scene.1.Stands id standing ∧ Concluded id outcome scene standing := by
  obtain ⟨standing, stands⟩ := sound.stands id
  refine ⟨standing, stands, sound.issued_of_listed listed, ?_⟩
  rintro job place rfl
  obtain rfl := Option.some.inj (stands.job?.symm.trans listed)
  exact ⟨rfl, rfl, rfl⟩

theorem Concluded.of_listed {scene : Scene Time σ} {outcome last : Job}
    (concluded : ∃ standing, scene.1.Stands id standing ∧ Concluded id outcome scene standing)
    (listed : scene.1.job? id = some last) :
    last.status = outcome.status ∧ last.result = outcome.result ∧ last.error = outcome.error := by
  obtain ⟨standing, stands, concluded⟩ := concluded
  obtain ⟨place, rfl⟩ := stands.of_listed listed
  exact concluded.2 last place rfl

theorem concluded_of_run {uses : List (Use Time σ)} (quiet : ∀ use ∈ uses, use.around.Quiet)
    {scene : Scene Time σ} (sound : Sound scene.1) {outcome last : Job}
    (listed : scene.1.job? id = some outcome) (ended : outcome.status.isTerminal)
    (final : outcome.status = .failed → ∀ use ∈ uses, use.operation ≠ .retry id)
    (later : (run uses scene).1.job? id = some last) :
    last.status = outcome.status ∧ last.result = outcome.result ∧ last.error = outcome.error := by
  have kept : Sound (run uses scene).1 ∧ ∃ standing, (run uses scene).1.Stands id standing ∧
      Concluded id outcome (run uses scene) standing := by
    apply run_preserves fun scene : Scene Time σ => Sound scene.1 ∧
      ∃ standing, scene.1.Stands id standing ∧ Concluded id outcome scene standing
    · rintro use member scene ⟨sound, concluded⟩
      exact concluded_of_moves
        (Operation.moves (quiet use member) use.operation sound.fresh) sound ended
        (fun failed => final failed use member) concluded
    · exact ⟨sound, concluded_self sound listed⟩
  exact Concluded.of_listed kept.2 later

/-- A report on a job that is not running in a slot does not count. -/
theorem Operation.Reports.uncounted (reports : operation.Reports id) {scene : Scene Time σ}
    (idle : ∀ job, scene.1.job? id = some job → job.status = .running → id ∉ scene.1.running) :
    Release around id scene.1 scene.2 (none, operation.apply around scene) := by
  obtain ⟨queue, state⟩ := scene
  have released := release_spec around id queue state
  cases operation with
  | complete other result =>
      obtain rfl : other = id := reports
      simp only [apply, Queue.complete]
      split
      next outcome unaccounted => exact unaccounted ▸ released
      next job outcome accounted =>
        rw [accounted] at released
        cases released with
        | counted listed running slot => exact (idle job listed running slot).elim
  | fail other error =>
      obtain rfl : other = id := reports
      have setback := fail_spec around other error queue state
      simp only [apply]
      generalize Queue.fail around other error (queue, state) = result at setback
      cases setback with
      | dismissed released => exact released
      | gaveUp listed running slot | postponed listed running slot
      | undelayable listed running slot | unminded listed running slot =>
          exact (idle _ listed running slot).elim
  | _ => exact reports.elim

/-- Admission does nothing to a cancelled job. -/
theorem admitAll_journal {scene : Scene Time (List (Told Time))} (sound : Sound scene.1) {job : Job}
    (listed : scene.1.job? id = some job) (cancelled : job.status = .cancelled) :
    journalOf id (admitAll around.watched scene).2 = journalOf id scene.2 := by
  obtain ⟨standing, stands⟩ := sound.stands id
  obtain ⟨place, rfl⟩ := stands.of_listed listed
  have moves : Moves around.watched (.wake id) scene _ :=
    admitAll_moves around.watched_quiet scene
  obtain ⟨-, after, -, same, -⟩ := moves.follow
    (fun last standing => journalOf id last.2 = journalOf id scene.2 ∧
      standing = some (job, place)) sound stands ⟨rfl, rfl⟩ <| by
    rintro queue signals next before after log move passage fits ⟨same, rfl⟩
    have grown := journalOf_foldl around id next signals log
    generalize signals.filter (·.concerns id) = own at passage grown
    cases passage with
    | stay => exact ⟨(grown.trans (List.append_nil _)).trans same, rfl⟩
    | started waiting | refused waiting | readmitted waiting => simp [cancelled] at waiting
    | discarded reports => exact reports.elim
  exact same

/-- Nothing is told of a job whose outcome is dropped. -/
theorem uncounted_journal {scene last : Scene Time (List (Told Time))} (sound : Sound scene.1)
    (released : Release around.watched id scene.1 scene.2 (none, last)) :
    journalOf id last.2 = journalOf id scene.2 := by
  obtain ⟨queue, log⟩ := scene
  cases released with
  | missing | ignored => rfl
  | @dropped job listed cancelled =>
      have reports : Operation.Reports id (.complete id .null) := rfl
      have move : Move around.watched (.complete id .null) queue [] _ :=
        .discarded reports listed cancelled
      have kept : KeepsId (noteEnd around.watched.stamp) := fun _ => rfl
      have found : ((queue.vacate id).edit id (noteEnd around.watched.stamp)).job? id =
          some (noteEnd around.watched.stamp job) := job?_edit_self _ kept listed
      exact admitAll_journal (sound.move move) found cancelled

/-- The job is running, or no other attempt of it is to come. -/
def Unrelieved (id : JobId) (scene : Scene Time σ) (standing : Standing Time) : Prop :=
  id < scene.1.issued ∧ ∀ job place, standing = some (job, place) →
    job.status = .running ∨ job.status = .completed ∨ job.status = .cancelled

theorem Passage.unrelieved {queue next : Queue Time} {signals : List (Signal Time)}
    {before after : Standing Time} {state : σ} (move : Move around operation queue signals next)
    (passage : Passage around queue id operation before (signals.filter (·.concerns id)) after)
    (fits : Fits id before) (other : ∀ error, operation ≠ .fail id error)
    (unrelieved : Unrelieved id (queue, state) before) (later : σ) :
    Unrelieved id (next, later) after := by
  obtain ⟨old, going⟩ := unrelieved
  refine ⟨Nat.lt_of_lt_of_le old move.issued.1, ?_⟩
  generalize signals.filter (·.concerns id) = own at passage
  cases passage with
  | stay => exact going
  | enqueued new => exact absurd new (Nat.ne_of_lt old)
  | started status | refused status | cancelledWaiting status | readmitted status
  | renewed status => simpa [status] using going _ _ rfl
  | undelayed => simpa [fits.2.1] using going _ _ rfl
  | cancelledRunning =>
      rintro _ _ ⟨⟩
      exact .inr (.inr rfl)
  | discarded _ cancelled =>
      rintro _ _ ⟨⟩
      exact .inr (.inr cancelled)
  | succeeded =>
      rintro _ _ ⟨⟩
      exact .inr (.inl rfl)
  | gaveUp | postponed | undelayable | unminded => exact (other _ rfl).elim
  | dropped => simp

/-- A job that is running is put off only by a report that its attempt failed, while attempts are
left to it and its workflow is there. -/
theorem relieved_by_failure (quiet : around.Quiet) {scene : Scene Time σ} (sound : Sound scene.1)
    {job last : Job} (listed : scene.1.job? id = some job) (running : job.status = .running)
    (later : (operation.apply around scene).1.job? id = some last)
    (waiting : last.status = .pending) :
    (∃ error, operation = .fail id error) ∧ id ∈ scene.1.running ∧
      job.attempts < scene.1.budget job.workflow ∧ (scene.1.workflow? job.workflow).isSome := by
  by_cases fails : ∃ error, operation = .fail id error
  · obtain ⟨error, rfl⟩ := fails
    refine ⟨⟨error, rfl⟩, ?_⟩
    obtain ⟨queue, state⟩ := scene
    have setback := fail_spec around id error queue state
    change (fail around id error (queue, state)).2.1.job? id = some last at later
    generalize fail around id error (queue, state) = result at setback later
    cases setback with
    | dismissed released =>
        cases released with
        | missing gone => simp [gone] at listed
        | dropped same cancelled => simp_all
        | ignored =>
            obtain rfl := Option.some.inj (later.symm.trans listed)
            simp [running] at waiting
    | @gaveUp other same gone slot spent =>
        have move : Move around (.fail id error) queue _ _ := .gaveUp same gone slot spent
        have found := job?_setback error (·.giveUp around.stamp) (fun _ => rfl) same
        generalize told : Scene.tell around .failed id _ = scene at later
        have stays : scene.1 = ((queue.vacate id).edit id (noteError error)).edit id
            (·.giveUp around.stamp) := told ▸ tell_fst quiet _ _ _
        have settled : Sound scene.1 := stays ▸ sound.move move
        have admitted : Moves around (.wake id) scene _ := admitAll_moves quiet scene
        rw [← stays] at found
        have kept :=
          concluded_of_moves admitted settled rfl (by simp) (concluded_self settled found)
        have failed := (Concluded.of_listed kept.2 later).1
        simp [waiting, Job.giveUp] at failed
    | postponed same _ slot left known | undelayable same _ slot left known
    | unminded same _ slot left known =>
        obtain rfl := Option.some.inj (same.symm.trans listed)
        exact ⟨slot, left, known⟩
  · obtain ⟨standing, stands⟩ := sound.stands id
    obtain ⟨place, rfl⟩ := stands.of_listed listed
    have moves := Operation.moves quiet operation sound.fresh
    have unrelieved : Unrelieved id scene (some (job, place)) := by
      refine ⟨sound.issued_of_listed listed, ?_⟩
      rintro _ _ ⟨⟩
      exact .inl running
    obtain ⟨-, after, stands, -, ended⟩ := moves.follow (Unrelieved id) sound stands unrelieved
      fun state move passage fits unrelieved =>
        passage.unrelieved move fits (fun error same => fails ⟨error, same⟩) unrelieved _
    obtain ⟨place, rfl⟩ := stands.of_listed later
    simpa [waiting] using ended last place rfl

/-- A job that was cancelled is on record as cancelled. -/
theorem cancel_cancelled (quiet : around.Quiet) {scene : Scene Time σ}
    (done : (cancel around id scene).1 = true) :
    ∃ job, (cancel around id scene).2.1.job? id = some job ∧ job.status = .cancelled := by
  unfold cancel at done ⊢
  split
  next gone => simp [gone] at done
  next job listed =>
    simp only [listed] at done
    split
    next =>
      refine ⟨{ job with status := .cancelled }, ?_, rfl⟩
      rw [tell_fst quiet]
      exact job?_edit_self _ (fun _ => rfl) listed
    next =>
      refine ⟨callOff around.stamp job, ?_, rfl⟩
      simp only [tell_fst quiet]
      exact job?_edit_self _ (fun _ => rfl) listed
    all_goals simp_all

theorem cancel_refused {scene : Scene Time σ}
    (ended : ∀ job, scene.1.job? id = some job → job.status = .cancelled) :
    (cancel around id scene).1 = false := by
  unfold cancel
  split
  · rfl
  next job listed => simp [ended job listed]

/-- A job is cancelled once at most. -/
theorem cancel_again (quiet : around.Quiet) {uses : List (Use Time σ)}
    (rest : ∀ use ∈ uses, use.around.Quiet) {scene : Scene Time σ} (sound : Sound scene.1)
    (done : (cancel around id scene).1 = true) (later : Surroundings Time σ) :
    (cancel later id (run uses (cancel around id scene).2)).1 = false := by
  obtain ⟨job, listed, cancelled⟩ := cancel_cancelled quiet done
  have kept : Sound ((Operation.cancel id).apply around scene).1 := sound.apply quiet
  refine cancel_refused fun last found => ?_
  have stays := concluded_of_run rest kept listed (by simp [cancelled, JobStatus.isTerminal])
    (by simp [cancelled]) found
  exact stays.1.trans cancelled

/-- The law of the life of a job in a watched queue. -/
structure Lawful (config : QueueConfig) (uses : List (Use Time σ)) (id : JobId) : Prop where
  /-- What was told of the job is a life that leads to its status; without a record the job was not
  yet queued, or it came to its end. -/
  accepted : ∃ phase, Life (journalOf id (watch config uses).2) phase ∧
    match (watch config uses).1.job? id with
    | some job => phase.status? = some job.status
    | none => phase.status?.all JobStatus.isTerminal
  /-- Nothing is told of a job whose outcome is dropped. -/
  silent : ∀ past use, past ++ [use] <+: uses → use.operation.Reports id →
    (∀ job, (watch config past).1.job? id = some job → job.status = .running →
      id ∉ (watch config past).1.running) →
    journalOf id (watch config (past ++ [use])).2 = journalOf id (watch config past).2
  /-- A running job is put off only by a report that its attempt failed, with attempts left. -/
  relieved : ∀ past use job last, past ++ [use] <+: uses →
    (watch config past).1.job? id = some job → job.status = .running →
    (watch config (past ++ [use])).1.job? id = some last → last.status = .pending →
    (∃ error, use.operation = .fail id error) ∧ id ∈ (watch config past).1.running ∧
      job.attempts < (watch config past).1.budget job.workflow ∧
      ((watch config past).1.workflow? job.workflow).isSome
  /-- A job that came to its end keeps its status, its result and its error whatever happens, and
  only a retry by hand takes a failed job back. -/
  concluded : ∀ past rest job last, past ++ rest <+: uses →
    (watch config past).1.job? id = some job → job.status.isTerminal →
    (job.status = .failed → ∀ use ∈ rest, use.operation ≠ .retry id) →
    (watch config (past ++ rest)).1.job? id = some last →
    last.status = job.status ∧ last.result = job.result ∧ last.error = job.error
  /-- A job is cancelled once at most. -/
  cancelledOnce : ∀ past first middle second,
    past ++ ⟨first, .cancel id⟩ :: middle ++ [⟨second, .cancel id⟩] <+: uses →
    (cancel first.watched id (watch config past)).1 = true →
    (cancel second.watched id (watch config (past ++ ⟨first, .cancel id⟩ :: middle))).1 = false

/-- Every job of every watched queue lives by the law. -/
theorem lawful (config : QueueConfig) (uses : List (Use Time σ)) (id : JobId) :
    Lawful config uses id where
  accepted := by
    obtain ⟨standing, stands, lives⟩ := watch_lives config uses id
    rw [stands.job?]
    rcases standing with _ | ⟨job, place⟩
    · obtain ⟨-, phase, life, ended⟩ := lives
      exact ⟨phase, life, ended⟩
    · refine ⟨phaseOf job place, lives.2, ?_⟩
      have fits := stands.fits.2
      cases place <;> cases status : job.status <;> simp_all [phaseOf, Phase.status?]
  silent past use _ reports idle := by
    rw [watch_append]
    exact uncounted_journal (watch_sound config past)
      (Operation.Reports.uncounted reports idle)
  relieved past use job last _ listed running later waiting := by
    rw [watch_append] at later
    exact relieved_by_failure use.around.watched_quiet (watch_sound config past) listed running
      later waiting
  concluded past rest job last _ listed ended final later := by
    rw [watch_append] at later
    refine concluded_of_run (watched_quiet rest) (watch_sound config past) listed ended ?_ later
    intro failed use member
    obtain ⟨use, inside, rfl⟩ := List.mem_map.mp member
    exact final failed use inside
  cancelledOnce past first middle second _ done := by
    rw [watch_append]
    exact cancel_again first.watched_quiet (watched_quiet middle) (watch_sound config past) done _

end Watch

end Queue

end Orchestra
