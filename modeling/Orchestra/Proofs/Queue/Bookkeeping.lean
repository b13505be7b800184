import Orchestra.Proofs.Queue.Passage

/-!
The books of a queue.

Every running job holds a slot, every waiting job is in line once or has one delay, and nothing else
is in these places. The books stay in order as long as no report of a failed attempt breaks down. A
report that does loses its job: the slot is free by then, and nothing will put the job into line.
-/

namespace Orchestra.Queue

variable {Time σ : Type}

/-- The books are in order. -/
structure Books (queue : Queue Time) : Prop where
  slots : ∀ id ∈ queue.running, ∃ job, queue.job? id = some job ∧
    (job.status = .running ∨ job.status = .cancelled)
  running : ∀ job ∈ queue.jobs, job.status = .running → job.id ∈ queue.running
  waiting : ∀ job ∈ queue.jobs, job.status = .pending →
    (queue.pending.count job.id = 1 ∧ ∀ due, (job.id, due) ∉ queue.delayed) ∨
      (job.id ∉ queue.pending ∧ ∃ due, queue.delayed.filter (·.1 == job.id) = [(job.id, due)])
  line : ∀ id ∈ queue.pending, ∃ job, queue.job? id = some job ∧ job.status = .pending
  delays : ∀ entry ∈ queue.delayed, ∃ job, queue.job? entry.1 = some job ∧ job.status = .pending

/-- The job has not come to its end, and it is in none of the places where jobs wait or run. -/
def Lost : Standing Time → Prop
  | some (job, .aside) => ¬ job.status.isTerminal
  | _ => False

/-- The strategy has no delay after so many attempts, or nothing can measure it. -/
def Undelayable (around : Surroundings Time σ) (config : QueueConfig) (attempts : Nat) : Prop :=
  (∃ failure, retryDelay config attempts = .error failure) ∨ around.clock = none ∨
    ∃ seconds now failure, retryDelay config attempts = .ok seconds ∧ around.clock = some now ∧
      around.after now seconds = .error failure

theorem Undelayable.of_fault {around : Surroundings Time σ} {config : QueueConfig} {attempts : Nat}
    {seconds : Number} {failure : Failure} (delay : retryDelay config attempts = .ok seconds)
    (fault : ∀ now, around.clock = some now → around.after now seconds = .error failure) :
    Undelayable around config attempts := by
  refine .inr ?_
  cases timed : around.clock with
  | none => exact .inl rfl
  | some now => exact .inr ⟨seconds, now, failure, delay, rfl, fault now timed⟩

section Sound

variable {queue : Queue Time}

theorem Stands.of_mem {id : JobId} {standing : Standing Time} {job : Job}
    (stands : queue.Stands id standing) (member : job ∈ queue.jobs) (own : job.id = id) :
    ∃ place, standing = some (job, place) := by
  have listed : job ∈ (queue.card id).records := List.mem_filter.mpr ⟨member, by simp [own]⟩
  rw [stands.card] at listed
  rcases standing with _ | ⟨other, place⟩
  · cases listed
  · refine ⟨place, ?_⟩
    cases place <;> simp_all [Card.ofStanding]

theorem Books.not_lost (books : Books queue) {id : JobId} {standing : Standing Time}
    (stands : queue.Stands id standing) : ¬ Lost standing := by
  intro lost
  rcases standing with _ | ⟨job, _ | _ | _ | _⟩
  case some.aside =>
    have member : job ∈ queue.jobs := List.mem_of_find?_eq_some stands.job?
    obtain rfl : job.id = id := job?_id stands.job?
    have unlined : job.id ∉ queue.pending := by simp [stands.mem_pending]
    cases status : job.status with
    | running =>
        have slot := stands.mem_running.mp (books.running job member status)
        simp at slot
    | pending =>
        rcases books.waiting job member status with ⟨once, -⟩ | ⟨-, due, armed⟩
        · exact unlined (List.count_pos_iff.mp (once ▸ Nat.one_pos))
        · have entry : (job.id, due) ∈ queue.delayed.filter (·.1 == job.id) := by simp [armed]
          simpa using stands.mem_delayed.mp (List.mem_filter.mp entry).1
    | completed | failed | cancelled => simp [Lost, status, JobStatus.isTerminal] at lost
  all_goals exact lost

theorem Stands.waiting {job : Job} {place : Place Time}
    (stands : queue.Stands job.id (some (job, place))) (kept : ¬ Lost (some (job, place)))
    (waiting : job.status = .pending) :
    (queue.pending.count job.id = 1 ∧ ∀ due, (job.id, due) ∉ queue.delayed) ∨
      (job.id ∉ queue.pending ∧
        ∃ due, queue.delayed.filter (·.1 == job.id) = [(job.id, due)]) := by
  have fits := stands.fits.2
  cases place with
  | line => exact .inl ⟨congrArg Card.line stands.card, by simp [stands.mem_delayed]⟩
  | slot => simp [waiting] at fits
  | delay due =>
      refine .inr ⟨by simp [stands.mem_pending], due, ?_⟩
      exact delayed_of_card (congrArg Card.delays stands.card)
  | aside => simp [Lost, waiting, JobStatus.isTerminal] at kept

/-- The books are in order when no job is lost. -/
theorem Sound.books_iff (sound : Sound queue) :
    Books queue ↔ ∀ id standing, queue.Stands id standing → ¬ Lost standing := by
  constructor
  · intro books id standing stands
    exact books.not_lost stands
  · intro kept
    constructor
    · intro id slot
      obtain ⟨standing, stands⟩ := sound.stands id
      obtain ⟨job, rfl⟩ := stands.mem_running.mp slot
      exact ⟨job, stands.job?, stands.fits.2.1⟩
    · intro job member running
      obtain ⟨standing, stands⟩ := sound.stands job.id
      obtain ⟨place, rfl⟩ := stands.of_mem member rfl
      have fits := stands.fits.2
      have held := kept _ _ stands
      cases place with
      | slot => exact stands.mem_running.mpr ⟨job, rfl⟩
      | aside => simp [Lost, running, JobStatus.isTerminal] at held
      | line | delay => simp [running] at fits
    · intro job member waiting
      obtain ⟨standing, stands⟩ := sound.stands job.id
      obtain ⟨place, rfl⟩ := stands.of_mem member rfl
      exact stands.waiting (kept _ _ stands) waiting
    · intro id lined
      obtain ⟨standing, stands⟩ := sound.stands id
      obtain ⟨job, rfl⟩ := stands.mem_pending.mp lined
      exact ⟨job, stands.job?, stands.fits.2.1⟩
    · rintro ⟨id, due⟩ armed
      obtain ⟨standing, stands⟩ := sound.stands id
      obtain ⟨job, rfl⟩ := stands.mem_delayed.mp armed
      exact ⟨job, stands.job?, stands.fits.2.1⟩

end Sound

section Move

variable {around : Surroundings Time σ} {operation : Operation} {queue next : Queue Time}
  {signals : List (Signal Time)} {id : JobId} {before after : Standing Time}

/-- A job is lost by a report of its failure of which nobody hears, or when its delay is forgotten
as the queue stops. -/
theorem Passage.lost (passage : Passage around queue id operation before signals after)
    (lost : Lost after) :
    Lost before ∨ operation = .stop ∨ ∃ error, operation = .fail id error ∧ signals = [] := by
  cases passage with
  | stay => exact .inl lost
  | undelayable | unminded => exact .inr (.inr ⟨_, rfl, rfl⟩)
  | undelayed => exact .inr (.inl rfl)
  | @cancelledRunning place =>
      cases place with
      | aside => exact (lost rfl).elim
      | line | slot | delay => exact lost.elim
  | discarded _ cancelled => exact (lost (by simp [noteEnd, cancelled, JobStatus.isTerminal])).elim
  | refused | cancelledWaiting | succeeded | gaveUp => exact (lost rfl).elim
  | _ => exact lost.elim

/-- A move keeps the books in order, unless the queue stops or nobody hears of a failure. -/
theorem Books.move (books : Books queue) (sound : Sound queue)
    (move : Move around operation queue signals next) (going : operation ≠ .stop)
    (heard : ∀ id error, operation = .fail id error → signals.filter (·.concerns id) ≠ []) :
    Books next := by
  refine (sound.move move).books_iff.mpr fun id standing stands lost => ?_
  obtain ⟨before, earlier⟩ := sound.stands id
  obtain ⟨after, passage, card⟩ := move.passes sound earlier
  obtain rfl : standing = after := Card.ofStanding_injective (stands.card.symm.trans card)
  rcases passage.lost lost with missing | stops | ⟨error, fails, unheard⟩
  · exact books.not_lost earlier missing
  · exact going stops
  · exact heard id error fails unheard

end Move

section Operation

variable {around : Surroundings Time σ} {operation : Operation} {scene last : Scene Time σ}

/-- Only a stop and the report of a failed attempt can lose a job. -/
theorem Books.moves (books : Books scene.1) (sound : Sound scene.1)
    (moves : Moves around operation scene last) (going : operation ≠ .stop)
    (other : ∀ id error, operation ≠ .fail id error) : Books last.1 := by
  have kept : Sound last.1 ∧ Books last.1 := by
    apply moves.preserves (fun scene => Sound scene.1 ∧ Books scene.1)
    · intro queue signals next state move before
      refine ⟨before.1.move move, before.2.move before.1 move going fun id error fails => ?_⟩
      exact (other id error fails).elim
    · exact ⟨sound, books⟩
  exact kept.2

theorem admitAll_books (quiet : around.Quiet) (books : Books scene.1) (sound : Sound scene.1) :
    Books (admitAll around scene).1 := by
  -- admission is the same whatever the operation
  have moves : Moves around (.wake 0) scene _ := admitAll_moves quiet scene
  exact books.moves sound moves (by simp) (by simp)

/-- A report that breaks down loses its job: the slot is free by then, and nothing else follows. -/
theorem fail_loses (sound : Sound scene.1) {id : JobId} {error : Option String}
    {failure : Failure} (breaks : (fail around id error scene).1 = .error failure) :
    id ∈ scene.1.running ∧
      ∃ standing, (fail around id error scene).2.1.Stands id standing ∧ Lost standing := by
  obtain ⟨queue, state⟩ := scene
  have setback := fail_spec around id error queue state
  generalize fail around id error (queue, state) = result at setback breaks
  have noted : KeepsId (noteError error) := fun _ => rfl
  have keeps : KeepsId putOff := fun _ => rfl
  obtain ⟨standing, stands⟩ := sound.stands id
  cases setback with
  | dismissed | gaveUp | postponed => cases breaks
  | @undelayable job _ listed running slot left known =>
      obtain rfl := stands.of_slot slot listed
      have passage : Passage around queue id (.fail id error) _ _ _ :=
        .undelayable running left known
      have fallen : Stands ((queue.vacate id).edit id (noteError error)) id
          (some (noteError error job, .aside)) :=
        ⟨card_outcome_self stands _ noted, passage.fits stands.fits⟩
      exact ⟨slot, _, fallen, by simp [Lost, noteError, running, JobStatus.isTerminal]⟩
  | @unminded job _ _ listed running slot left known =>
      obtain rfl := stands.of_slot slot listed
      have passage : Passage around queue id (.fail id error) _ _ _ :=
        .unminded running left known
      have fallen : Stands (((queue.vacate id).edit id (noteError error)).edit id putOff) id
          (some (putOff (noteError error job), .aside)) :=
        ⟨card_setback_self stands error _ keeps, passage.fits stands.fits⟩
      exact ⟨slot, _, fallen, by simp [Lost, putOff, JobStatus.isTerminal]⟩

/-- A report of a failed attempt keeps the books in order exactly when it does not break down. -/
theorem fail_books_iff (quiet : around.Quiet) (books : Books scene.1) (sound : Sound scene.1)
    (id : JobId) (error : Option String) :
    Books (fail around id error scene).2.1 ↔
      ¬ ∃ failure, (fail around id error scene).1 = .error failure := by
  constructor
  · rintro books ⟨failure, breaks⟩
    obtain ⟨-, standing, fallen, lost⟩ := fail_loses sound breaks
    exact books.not_lost fallen lost
  intro fine
  obtain ⟨queue, state⟩ := scene
  have setback := fail_spec around id error queue state
  generalize fail around id error (queue, state) = result at setback fine
  cases setback with
  | dismissed released =>
      have reports : Operation.Reports id (.complete id .null) := rfl
      have moves := release_moves quiet id reports released
      exact books.moves sound moves (by simp) (by simp)
  | @gaveUp job listed running slot spent =>
      have move : Move around (.fail id error) queue _ _ := .gaveUp listed running slot spent
      apply admitAll_books quiet
      · rw [tell_fst quiet]
        refine books.move sound move (by simp) ?_
        rintro _ _ ⟨⟩
        simp [Signal.concerns, Event.job?, Job.giveUp, noteError, job?_id listed]
      · rw [tell_fst quiet]
        exact sound.move move
  | postponed listed running slot left known delay timed counted =>
      have move : Move around (.fail id error) queue _ _ :=
        .postponed listed running slot left known delay timed counted
      apply admitAll_books quiet (books.move sound move (by simp) ?_) (sound.move move)
      rintro _ _ ⟨⟩
      simp [Signal.concerns]
  | undelayable | unminded => exact (fine ⟨_, rfl⟩).elim

/-- Every operation but a stop keeps the books in order exactly when it does not break down. -/
theorem apply_books_iff (quiet : around.Quiet) (going : operation ≠ .stop) (sound : Sound scene.1)
    (books : Books scene.1) :
    Books (operation.apply around scene).1 ↔ ¬ operation.BreaksDown around scene := by
  cases operation with
  | fail id error => exact fail_books_iff quiet books sound id error
  | _ =>
      refine iff_of_true ?_ not_false
      exact books.moves sound (Operation.moves quiet _ sound.fresh) going (by simp)

/-- A report breaks down exactly when its job is to be started again, and there is no delay. -/
theorem breaksDown_iff :
    operation.BreaksDown around scene ↔
      ∃ id error job, operation = .fail id error ∧ scene.1.job? id = some job ∧
        job.status = .running ∧ id ∈ scene.1.running ∧
        job.attempts < scene.1.budget job.workflow ∧
        (scene.1.workflow? job.workflow).isSome ∧
        Undelayable around scene.1.config job.attempts := by
  obtain ⟨queue, state⟩ := scene
  constructor
  · intro breaks
    cases operation with
    | fail id error =>
        obtain ⟨failure, fails⟩ := breaks
        have setback := fail_spec around id error queue state
        generalize fail around id error (queue, state) = result at setback fails
        cases setback with
        | @undelayable job _ listed running slot left known fault =>
            exact ⟨id, error, job, rfl, listed, running, slot, left, known, .inl ⟨_, fault⟩⟩
        | @unminded job _ _ listed running slot left known delay fault =>
            exact ⟨id, error, job, rfl, listed, running, slot, left, known, .of_fault delay fault⟩
        | _ => cases fails
    | _ => exact breaks.elim
  · rintro ⟨id, error, job, rfl, listed, running, slot, left, known, undelayed⟩
    have setback := fail_spec around id error queue state
    change ∃ failure, (fail around id error (queue, state)).1 = .error failure
    generalize fail around id error (queue, state) = result at setback
    cases setback with
    | dismissed released => exact (Release.not_none listed running slot released).elim
    | gaveUp same _ _ spent =>
        obtain rfl := Option.some.inj (same.symm.trans listed)
        exact (spent ⟨left, known⟩).elim
    | postponed same _ _ _ _ delay timed counted =>
        obtain rfl := Option.some.inj (same.symm.trans listed)
        simp_all [Undelayable]
    | undelayable => exact ⟨_, rfl⟩
    | unminded => exact ⟨_, rfl⟩

/-- The same in a run from the start, where the configuration is known. -/
theorem run_breaksDown_iff {config : QueueConfig} {state : σ} {past : List (Use Time σ)}
    (quiet : ∀ use ∈ past, use.around.Quiet) :
    operation.BreaksDown around (run past (empty config, state)) ↔
      ∃ id error job, operation = .fail id error ∧
        (run past (empty config, state)).1.job? id = some job ∧
        job.status = .running ∧ id ∈ (run past (empty config, state)).1.running ∧
        job.attempts < (run past (empty config, state)).1.budget job.workflow ∧
        ((run past (empty config, state)).1.workflow? job.workflow).isSome ∧
        Undelayable around config job.attempts := by
  rw [breaksDown_iff, (sound_run config state quiet).2]

end Operation

theorem books_empty (config : QueueConfig) : Books (empty config : Queue Time) :=
  (sound_empty config).books_iff.mpr fun id _ stands lost => by
    obtain rfl := stands.unique ((sound_empty config).unissued id (Nat.zero_le id))
    exact lost

/-- Between the operations of a queue that was not stopped, the books are in order exactly as long
as no report of a failed attempt breaks down; and a report does so exactly when its job is to be
started again, but the strategy has no delay, or no event loop runs, or the clock cannot count as
far as the delay. -/
theorem books_iff_no_breakdown (config : QueueConfig) (state : σ) (uses : List (Use Time σ))
    (quiet : ∀ use ∈ uses, use.around.Quiet) (going : ∀ use ∈ uses, use.operation ≠ .stop) :
    ((∀ past, past <+: uses → Books (run past (empty config, state)).1) ↔
      ∀ past use, past ++ [use] <+: uses →
        ¬ use.operation.BreaksDown use.around (run past (empty config, state))) ∧
    ∀ past use, past ++ [use] <+: uses →
      (use.operation.BreaksDown use.around (run past (empty config, state)) ↔
        ∃ id error job, use.operation = .fail id error ∧
          (run past (empty config, state)).1.job? id = some job ∧
          job.status = .running ∧ id ∈ (run past (empty config, state)).1.running ∧
          job.attempts < (run past (empty config, state)).1.budget job.workflow ∧
          ((run past (empty config, state)).1.workflow? job.workflow).isSome ∧
          Undelayable use.around config job.attempts) := by
  constructor
  · refine run_prefixes_iff (fun scene => Sound scene.1) (fun scene => Books scene.1)
      (fun use scene => use.operation.BreaksDown use.around scene) ?_ ?_ ?_ ?_
    · intro use member scene sound
      exact sound.apply (quiet use member)
    · intro use member scene sound books
      exact apply_books_iff (quiet use member) (going use member) sound books
    · exact sound_empty config
    · exact books_empty config
  · intro past use begins
    apply run_breaksDown_iff
    intro use member
    exact quiet use (begins.subset (List.mem_append_left _ member))

/-- A whole number of seconds that is beyond every double. -/
def overlong : Int := Int.ofNat (Nat.pow 10 400)

/-- Quiet listeners, and a clock of whole seconds. -/
def counting : Surroundings Nat Unit where
  stamp := 0
  clock := some 0
  after := countOn
  runsJobs := true
  hear _ scene := scene
  launch _ _ state := state
  mind _ _ state := state

def overlongConfig : QueueConfig where
  maxConcurrent := 1
  maxRetries := 3
  strategy := .fixed (.int 3) (.int overlong)

/-- Two jobs are put into the line, and the first attempt of the first one fails. -/
def overlongUses : List (Use Nat Unit) :=
  [Operation.register { name := "wf", retries := some 3 }, .enqueue (.str "wf") {},
    .enqueue (.str "wf") {}, .fail 0 (some "boom")].map (⟨counting, ·⟩)

theorem overlongUses_around : ∀ use ∈ overlongUses, use.around = counting := by
  simp [overlongUses]

theorem overlongUses_quiet : ∀ use ∈ overlongUses, use.around.Quiet := by
  intro use member
  rw [overlongUses_around use member]
  exact fun _ _ _ => rfl

theorem overlongUses_timed : ∀ use ∈ overlongUses, use.around.clock.isSome := by
  intro use member
  rw [overlongUses_around use member]
  rfl

theorem overlongUses_going : ∀ use ∈ overlongUses, use.operation ≠ .stop := by
  simp [overlongUses]

/-- A whole delay of a fixed strategy is the same after every attempt. -/
theorem retryDelay_fixed {config : QueueConfig} {most : Value} {seconds : Int}
    (fixed : config.strategy = .fixed most (.int seconds)) (attempts : Nat) :
    retryDelay config attempts = .ok (.int seconds) := by
  have ordered : ∀ symbol a b, ∃ order, Value.ordering symbol (.int a) (.int b) = .ok order :=
    fun symbol a b => ⟨_, by rw [Value.ordering.eq_def]; rfl⟩
  obtain ⟨_, grown⟩ := ordered ">" 1 attempts
  obtain ⟨_, capped⟩ := ordered "<" seconds seconds
  simp [retryDelay, fixed, Retry.Strategy.fixed, Retry.Strategy.delay, Retry.Strategy.growth,
    Value.greatest, Value.greater, grown, Value.least, Value.less, capped, Except.map, bind,
    Except.bind, pure, Except.pure, Value.truthy, Value.rounded, Value.number?, Number.roundTo,
    Value.ofNumber]

theorem not_books_overlong : ¬ Books (run overlongUses (empty overlongConfig, ())).1 := by
  intro books
  have lost : ∃ job ∈ (run overlongUses (empty overlongConfig, ())).1.jobs,
      job.status = .pending ∧ job.id ∉ (run overlongUses (empty overlongConfig, ())).1.pending ∧
        (run overlongUses (empty overlongConfig, ())).1.delayed = [] := by
    decide +kernel
  obtain ⟨job, member, waiting, unlined, undelayed⟩ := lost
  rcases books.waiting job member waiting with ⟨once, -⟩ | ⟨-, due, armed⟩
  · exact unlined (List.count_pos_iff.mp (once ▸ Nat.one_pos))
  · simp [undelayed] at armed

/-- A delay that the strategy gives, and that the clock cannot count, loses a job. -/
theorem overlong_delay_loses_job :
    (∀ attempts, retryDelay overlongConfig attempts = .ok (.int overlong)) ∧
      (∀ use ∈ overlongUses, use.around.Quiet ∧ use.around.clock.isSome ∧
        use.operation ≠ .stop) ∧
      ¬ ∀ past, past <+: overlongUses → Books (run past (empty overlongConfig, ())).1 := by
  refine ⟨retryDelay_fixed rfl, fun use member => ?_, fun kept => ?_⟩
  · exact ⟨overlongUses_quiet use member, overlongUses_timed use member,
      overlongUses_going use member⟩
  · exact not_books_overlong (kept overlongUses List.prefix_rfl)

/-- The report whose delay is beyond the clock breaks down. -/
theorem overlong_delay_breaks_down :
    (∀ use ∈ overlongUses, use.around.Quiet) ∧ (∀ use ∈ overlongUses, use.operation ≠ .stop) ∧
      ∃ past use, past ++ [use] <+: overlongUses ∧
        use.operation.BreaksDown use.around (run past (empty overlongConfig, ())) := by
  refine ⟨overlongUses_quiet, overlongUses_going, Classical.byContradiction fun none => ?_⟩
  have exact_condition := books_iff_no_breakdown overlongConfig () overlongUses
    overlongUses_quiet overlongUses_going
  refine not_books_overlong (exact_condition.1.mpr ?_ overlongUses List.prefix_rfl)
  intro past use begins breaks
  exact none ⟨past, use, begins, breaks⟩

end Orchestra.Queue
