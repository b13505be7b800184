import Mathlib.Data.Finset.Dedup
import Mathlib.Data.Finset.Order
import Mathlib.Data.List.Induction
import Orchestra.Proofs.Queue.Bookkeeping

/-!
What the records of jobs tell.

Status, attempts, result, error and times of a job are written piece by piece, by different
operations, and fit together in every state between operations: as long as the clock is never put
back, and the strategy has a delay after every attempt. Without a delay a report breaks down too
early, and a job is left behind that runs in no slot.
-/

namespace Orchestra

namespace Job

/-- The status of a job goes with its attempts, its result, its error and its end. -/
structure Coherent (job : Job) : Prop where
  completed : job.status = .completed → job.completedAt.isSome ∧ job.error = none
  failed : job.status = .failed → job.completedAt.isSome ∧ job.error.isSome
  unresolved : job.status ≠ .completed → job.result = .null
  running : job.status = .running → 1 ≤ job.attempts
  started : job.startedAt.isSome ↔ 1 ≤ job.attempts

/-- The times of a job are in order, and none of them is to come. -/
structure Dated (now : Stamp) (job : Job) : Prop where
  created : job.createdAt ≤ now
  started : ∀ start, job.startedAt = some start → job.createdAt ≤ start ∧ start ≤ now
  ended : ∀ stop, job.completedAt = some stop → job.createdAt ≤ stop ∧ stop ≤ now
  lasted : ∀ start stop, job.startedAt = some start → job.completedAt = some stop → start ≤ stop

variable {job changed : Job} {now later : Stamp}

/-- A job that waits or was cancelled has no result. -/
theorem Coherent.unended (idle : job.status = .pending ∨ job.status = .cancelled)
    (unresolved : job.result = .null) (started : job.startedAt.isSome ↔ 1 ≤ job.attempts) :
    job.Coherent where
  completed := by rcases idle with same | same <;> simp [same]
  failed := by rcases idle with same | same <;> simp [same]
  unresolved _ := unresolved
  running := by rcases idle with same | same <;> simp [same]
  started := started

/-- A job that failed has an end and an error, and no result. -/
theorem Coherent.of_failed (failed : job.status = .failed) (ended : job.completedAt.isSome)
    (told : job.error.isSome) (unresolved : job.result = .null)
    (started : job.startedAt.isSome ↔ 1 ≤ job.attempts) : job.Coherent where
  completed := by simp [failed]
  failed _ := ⟨ended, told⟩
  unresolved _ := unresolved
  running := by simp [failed]
  started := started

theorem Dated.mono (dated : job.Dated now) (order : now ≤ later) : job.Dated later where
  created := Int.le_trans dated.created order
  started start begun := (dated.started start begun).imp_right (Int.le_trans · order)
  ended stop noted := (dated.ended stop noted).imp_right (Int.le_trans · order)
  lasted := dated.lasted

/-- A job that ends now began before. -/
theorem Dated.end_now (dated : job.Dated now) (created : changed.createdAt = job.createdAt)
    (started : changed.startedAt = job.startedAt) (ended : changed.completedAt = some now) :
    changed.Dated now where
  created := created ▸ dated.created
  started := created ▸ started ▸ dated.started
  ended stop noted := by
    obtain rfl := Option.some.inj (ended.symm.trans noted)
    exact ⟨created ▸ dated.created, Int.le_refl now⟩
  lasted start stop begun noted := by
    obtain rfl := Option.some.inj (ended.symm.trans noted)
    exact (dated.started start (started.symm.trans begun)).2

/-- A job that has not ended has the time of its making, and that of its last start. -/
theorem Dated.unended (created : job.createdAt ≤ now)
    (started : ∀ start, job.startedAt = some start → job.createdAt ≤ start ∧ start ≤ now)
    (unended : job.completedAt = none) : job.Dated now where
  created := created
  started := started
  ended stop noted := by cases unended.symm.trans noted
  lasted start stop begun noted := by cases unended.symm.trans noted

end Job

namespace Queue

variable {Time σ : Type}

/-- The record of a job is consistent, in itself and with the slots of its queue. -/
structure Consistent (queue : Queue Time) (job : Job) : Prop where
  completed : job.status = .completed → job.completedAt.isSome ∧ job.error = none
  failed : job.status = .failed →
    job.completedAt.isSome ∧ job.error.isSome ∧ job.result = .null
  unfinished : job.status = .pending ∨ job.status = .running →
    job.completedAt = none ∧ job.result = .null
  cancelled : job.status = .cancelled →
    job.result = .null ∧ (job.completedAt = none ↔ job.id ∈ queue.running)
  running : job.status = .running → 1 ≤ job.attempts
  started : job.startedAt.isSome ↔ 1 ≤ job.attempts
  begun : ∀ start, job.startedAt = some start → job.createdAt ≤ start
  ended : ∀ stop, job.completedAt = some stop → job.createdAt ≤ stop
  lasted : ∀ start stop, job.startedAt = some start → job.completedAt = some stop → start ≤ stop

/-- The record of a job is in order where the job stands. A job that was put aside is not running,
and its end is noted if it was cancelled. -/
def Recorded (now : Stamp) : Standing Time → Prop
  | none => True
  | some (job, place) => job.Coherent ∧ job.Dated now ∧
    (place = .aside → job.status ≠ .running ∧ (job.status = .cancelled → job.completedAt.isSome))

/-- All records of a queue are in order. -/
def Records (now : Stamp) (queue : Queue Time) : Prop :=
  ∀ id standing, queue.Stands id standing → Recorded now standing

section Standing

variable {queue : Queue Time} {id : JobId} {job : Job} {place : Place Time} {now later : Stamp}
  {standing : Standing Time}

theorem Recorded.mono (recorded : Recorded now standing) (order : now ≤ later) :
    Recorded later standing := by
  cases standing with
  | none => trivial
  | some => exact ⟨recorded.1, recorded.2.1.mono order, recorded.2.2⟩

/-- A cancelled job has no end noted exactly while it holds its slot. -/
theorem Stands.cancelled_unended_iff (stands : queue.Stands id (some (job, place)))
    (recorded : Recorded now (some (job, place))) (cancelled : job.status = .cancelled) :
    job.completedAt = none ↔ id ∈ queue.running := by
  have fits := stands.fits.2
  cases place with
  | line | delay => simp [cancelled] at fits
  | slot => exact iff_of_true fits.2 (stands.mem_running.mpr ⟨job, rfl⟩)
  | aside =>
      refine iff_of_false (fun unended => ?_) (by simp [stands.mem_running])
      simpa [unended] using (recorded.2.2 rfl).2 cancelled

/-- A job that neither ended nor was cancelled has no end noted. -/
theorem Stands.unended (stands : queue.Stands id (some (job, place)))
    (recorded : Recorded now (some (job, place)))
    (unfinished : job.status = .pending ∨ job.status = .running) : job.completedAt = none := by
  have fits := stands.fits.2
  cases place with
  | line | delay | slot => exact fits.2
  | aside =>
      refine fits.resolve_left fun ended => ?_
      rcases unfinished with same | same <;> simp [same, JobStatus.isTerminal] at ended

theorem Records.consistent (records : Records now queue) (sound : Sound queue)
    (member : job ∈ queue.jobs) : Consistent queue job := by
  obtain ⟨standing, stands⟩ := sound.stands job.id
  obtain ⟨place, rfl⟩ := stands.of_mem member rfl
  have recorded := records _ _ stands
  have ⟨coherent, dated, _⟩ := recorded
  have unresolved : job.status ≠ .completed → job.result = .null := coherent.unresolved
  constructor
  · exact coherent.completed
  · intro failed
    obtain ⟨ended, noted⟩ := coherent.failed failed
    exact ⟨ended, noted, unresolved (by simp [failed])⟩
  · intro unfinished
    refine ⟨stands.unended recorded unfinished, unresolved ?_⟩
    rcases unfinished with same | same <;> simp [same]
  · intro cancelled
    exact ⟨unresolved (by simp [cancelled]), stands.cancelled_unended_iff recorded cancelled⟩
  · exact coherent.running
  · exact coherent.started
  · exact fun start begun => (dated.started start begun).1
  · exact fun stop noted => (dated.ended stop noted).1
  · exact dated.lasted

end Standing

section Move

variable {around : Surroundings Time σ} {operation : Operation} {queue next : Queue Time}
  {signals : List (Signal Time)} {id : JobId} {before after : Standing Time}

/-- A passage keeps the record of a job in order, unless a report of its failure leaves it running
in no slot. -/
theorem Passage.recorded (passage : Passage around queue id operation before signals after)
    (fits : Fits id before) (recorded : Recorded around.stamp before) :
    Recorded around.stamp after ∨
      ∃ error job, operation = .fail id error ∧ after = some (job, .aside) ∧
        job.status = .running := by
  cases passage with
  | stay => exact .inl recorded
  | @undelayable error job running => exact .inr ⟨error, _, rfl, rfl, running⟩
  | dropped => exact .inl trivial
  | enqueued =>
      refine .inl ⟨.unended (.inl rfl) rfl (by simp [newJob]), ?_, by simp⟩
      exact .unended (Int.le_refl _) (by simp [newJob]) rfl
  | started waiting =>
      obtain ⟨coherent, dated, -⟩ := recorded
      refine .inl ⟨⟨by simp [Job.start], by simp [Job.start], fun _ => ?_, fun _ => ?_, ?_⟩, ?_, by simp⟩
      · exact coherent.unresolved (by simp [waiting])
      · exact Nat.le_add_left 1 _
      · simp [Job.start]
      · refine .unended dated.created (fun start begun => ?_) fits.2.2
        obtain rfl := Option.some.inj begun
        exact ⟨dated.created, Int.le_refl _⟩
  | refused waiting =>
      obtain ⟨coherent, dated, -⟩ := recorded
      have unresolved := coherent.unresolved (by simp [waiting])
      exact .inl ⟨.of_failed rfl rfl rfl unresolved coherent.started, dated.end_now rfl rfl rfl,
        fun _ => by simp [Job.refuse]⟩
  | @cancelledRunning place job running =>
      obtain ⟨coherent, dated, aside⟩ := recorded
      have unresolved := coherent.unresolved (by simp [running])
      exact .inl ⟨.unended (.inr rfl) unresolved coherent.started,
        ⟨dated.created, dated.started, dated.ended, dated.lasted⟩,
        fun put => ((aside put).1 running).elim⟩
  | cancelledWaiting waiting =>
      obtain ⟨coherent, dated, -⟩ := recorded
      have unresolved := coherent.unresolved (by simp [waiting])
      exact .inl ⟨.unended (.inr rfl) unresolved coherent.started, dated.end_now rfl rfl rfl,
        fun _ => by simp [callOff]⟩
  | renewed failed =>
      obtain ⟨coherent, dated, -⟩ := recorded
      have unresolved := coherent.unresolved (by simp [failed])
      exact .inl ⟨.unended (.inl rfl) unresolved (by simp [Job.renew]),
        .unended dated.created (by simp [Job.renew]) rfl, by simp⟩
  | @discarded _ place job _ cancelled =>
      obtain ⟨coherent, dated, -⟩ := recorded
      have unresolved := coherent.unresolved (by simp [cancelled])
      refine .inl ⟨.unended (.inr cancelled) unresolved coherent.started, ?_, fun _ => ⟨?_, fun _ => ?_⟩⟩
      · cases noted : job.completedAt with
        | none => exact dated.end_now rfl rfl (by simp [noteEnd, noted])
        | some stop =>
            have same : (noteEnd around.stamp job).completedAt = job.completedAt := by
              simp [noteEnd, noted]
            exact ⟨dated.created, dated.started, same ▸ dated.ended, same ▸ dated.lasted⟩
      · simp [noteEnd, cancelled]
      · simp [noteEnd]
  | succeeded =>
      obtain ⟨coherent, dated, -⟩ := recorded
      refine .inl ⟨⟨fun _ => ⟨rfl, rfl⟩, ?_, fun other => (other rfl).elim, ?_, coherent.started⟩,
        dated.end_now rfl rfl rfl, fun _ => ?_⟩
      all_goals simp [Job.succeed]
  | gaveUp running =>
      obtain ⟨coherent, dated, -⟩ := recorded
      have unresolved := coherent.unresolved (by simp [running])
      exact .inl ⟨.of_failed rfl rfl rfl unresolved coherent.started, dated.end_now rfl rfl rfl,
        fun _ => by simp [Job.giveUp]⟩
  | postponed running | unminded running =>
      obtain ⟨coherent, dated, -⟩ := recorded
      have unresolved := coherent.unresolved (by simp [running])
      exact .inl ⟨.unended (.inl rfl) unresolved coherent.started,
        .unended dated.created dated.started fits.2.2, fun _ => by simp [putOff]⟩
  | readmitted => exact .inl ⟨recorded.1, recorded.2.1, by simp⟩
  | undelayed => exact .inl ⟨recorded.1, recorded.2.1, fun _ => by simp [fits.2.1]⟩

/-- A move keeps the records in order, if it leaves no job running whose failure is reported. -/
theorem Records.move (records : Records around.stamp queue) (sound : Sound queue)
    (move : Move around operation queue signals next)
    (judged : ∀ id error job, operation = .fail id error → next.job? id = some job →
      job.status ≠ .running) : Records around.stamp next := by
  intro id standing stands
  obtain ⟨before, earlier⟩ := sound.stands id
  obtain ⟨after, passage, card⟩ := move.passes sound earlier
  obtain rfl : standing = after := Card.ofStanding_injective (stands.card.symm.trans card)
  rcases passage.recorded earlier.fits (records id before earlier) with
    recorded | ⟨error, job, fails, rfl, running⟩
  · exact recorded
  · exact (judged id error job fails stands.job? running).elim

end Move

section Operation

variable {around : Surroundings Time σ} {operation : Operation} {scene last : Scene Time σ}

theorem Records.moves (records : Records around.stamp scene.1) (sound : Sound scene.1)
    (moves : Moves around operation scene last) (other : ∀ id error, operation ≠ .fail id error) :
    Records around.stamp last.1 := by
  have kept : Sound last.1 ∧ Records around.stamp last.1 := by
    apply moves.preserves (fun scene => Sound scene.1 ∧ Records around.stamp scene.1)
    · intro queue signals next state move before
      refine ⟨before.1.move move, before.2.move before.1 move fun id error _ fails => ?_⟩
      exact (other id error fails).elim
    · exact ⟨sound, records⟩
  exact kept.2

theorem Records.admitAll (records : Records around.stamp scene.1) (sound : Sound scene.1)
    (quiet : around.Quiet) : Records around.stamp (admitAll around scene).1 := by
  -- admission is the same whatever the operation
  have moves : Moves around (.wake 0) scene _ := admitAll_moves quiet scene
  exact records.moves sound moves nofun

/-- A report of a failed attempt keeps the records in order if there is a delay after it. -/
theorem Records.fail (records : Records around.stamp scene.1) (sound : Sound scene.1)
    (quiet : around.Quiet) (id : JobId) (error : Option String)
    (delayable : ∀ attempts, 1 ≤ attempts →
      ∃ seconds, retryDelay scene.1.config attempts = .ok seconds) :
    Records around.stamp (fail around id error scene).2.1 := by
  obtain ⟨queue, state⟩ := scene
  have setback := fail_spec around id error queue state
  generalize Queue.fail around id error (queue, state) = result at setback
  have judged : ∀ {next : Queue Time} (job : Job), next.job? id = some job →
      job.status ≠ .running → ∀ other fault job, Operation.fail id error = .fail other fault →
        next.job? other = some job → job.status ≠ .running := by
    rintro next job listed idle _ _ other ⟨⟩ again
    obtain rfl := Option.some.inj (listed.symm.trans again)
    exact idle
  cases setback with
  | dismissed released =>
      have reports : Operation.Reports id (.complete id .null) := rfl
      exact records.moves sound (release_moves quiet id reports released) nofun
  | @gaveUp job listed running slot spent =>
      have move : Move around (.fail id error) queue _ _ := .gaveUp listed running slot spent
      have told := job?_setback error (·.giveUp around.stamp) (fun _ => rfl) listed
      have ended := records.move sound move (judged _ told nofun)
      refine Records.admitAll ?_ ?_ quiet
      all_goals rw [tell_fst quiet]
      · exact ended
      · exact sound.move move
  | @postponed job _ _ _ listed running slot left known delay timed counted =>
      have move : Move around (.fail id error) queue _ _ :=
        .postponed listed running slot left known delay timed counted
      have put := job?_setback error putOff (fun _ => rfl) listed
      exact (records.move sound move (judged _ put nofun)).admitAll (sound.move move) quiet
  | @undelayable job _ listed running slot _ _ fault =>
      obtain ⟨standing, stands⟩ := sound.stands id
      obtain rfl := stands.of_slot slot listed
      have begun := (records _ _ stands).1.running running
      obtain ⟨seconds, delay⟩ := delayable job.attempts begun
      cases delay.symm.trans fault
  | @unminded job _ _ listed running slot left known =>
      have move : Move around (.fail id error) queue _ _ :=
        .unminded listed running slot left known
      have put := job?_setback error putOff (fun _ => rfl) listed
      exact records.move sound move (judged _ put nofun)

theorem Records.apply (records : Records around.stamp scene.1) (sound : Sound scene.1)
    (quiet : around.Quiet)
    (delayable : ∀ attempts, 1 ≤ attempts →
      ∃ seconds, retryDelay scene.1.config attempts = .ok seconds) :
    Records around.stamp (operation.apply around scene).1 := by
  cases operation with
  | fail id error => exact records.fail sound quiet id error delayable
  | _ => exact records.moves sound (Operation.moves quiet _ sound.fresh) nofun

end Operation

/-- The wall clock is never put back from one use to the next. -/
def Timely (uses : List (Use Time σ)) : Prop :=
  (uses.map fun use => use.around.stamp).Pairwise (· ≤ ·)

/-- By induction on the uses from the last one on: its time is the latest, and that of the records. -/
theorem records_run {config : QueueConfig} (state : σ) {uses : List (Use Time σ)}
    (quiet : ∀ use ∈ uses, use.around.Quiet) (timely : Timely uses)
    (delayable : ∀ attempts, 1 ≤ attempts → ∃ seconds, retryDelay config attempts = .ok seconds)
    {now : Stamp} (past : ∀ use ∈ uses, use.around.stamp ≤ now) :
    Records now (run uses (empty config, state)).1 := by
  induction uses using List.reverseRecOn generalizing now with
  | nil =>
      intro id standing stands
      obtain rfl := stands.unique ((sound_empty config).unissued id (Nat.zero_le id))
      trivial
  | append_singleton earlier use ih =>
      have calm : ∀ use ∈ earlier, use.around.Quiet := fun use member =>
        quiet use (List.mem_append_left _ member)
      rw [Timely, List.map_append] at timely
      obtain ⟨ordered, -, latest⟩ := List.pairwise_append.mp timely
      have before : Records use.around.stamp (run earlier (empty config, state)).1 := by
        refine ih calm ordered fun other member => ?_
        exact latest _ (List.mem_map_of_mem member) _ (List.mem_singleton_self _)
      obtain ⟨sound, same⟩ := sound_run config state calm
      have last : use ∈ earlier ++ [use] := List.mem_append_right _ (List.mem_singleton_self use)
      rw [run_append, run_singleton]
      intro id standing stands
      refine Recorded.mono (Records.apply before sound (quiet use last) ?_ id standing stands)
        (past use last)
      rwa [same]

/-- In every state between operations, all records are consistent. -/
theorem records_consistent (config : QueueConfig) (state : σ) (uses : List (Use Time σ))
    (quiet : ∀ use ∈ uses, use.around.Quiet) (timely : Timely uses)
    (delayable : ∀ attempts, 1 ≤ attempts → ∃ seconds, retryDelay config attempts = .ok seconds) :
    ∀ job ∈ (run uses (empty config, state)).1.jobs,
      Consistent (run uses (empty config, state)).1 job := by
  intro job member
  obtain ⟨now, latest⟩ := (uses.map fun use => use.around.stamp).toFinset.exists_le
  have past : ∀ use ∈ uses, use.around.stamp ≤ now := fun use member =>
    latest _ (List.mem_toFinset.mpr (List.mem_map_of_mem member))
  exact (records_run state quiet timely delayable past).consistent
    (sound_run config state quiet).1 member

/-- A queue with a delay of a second. -/
def briefConfig : QueueConfig :=
  { overlongConfig with strategy := .fixed (.int 3) (.int 1) }

/-- A job fails, is started again, and is cancelled before its second attempt ends. -/
def overtakenUses : List (Use Nat Unit) :=
  [(0, Operation.register { name := "wf", retries := some 3 }), (1, .enqueue (.str "wf") {}),
    (5, .fail 0 (some "boom")), (7, .wake 0), (9, .cancel 0), (12, .complete 0 (.int 1))].map
    fun (stamp, operation) => ⟨{ counting with stamp }, operation⟩

/-- The end of a cancelled job is that of its attempt, whose outcome is dropped. -/
theorem overtaken_consistent :
    (∀ use ∈ overtakenUses, use.around.Quiet) ∧ Timely overtakenUses ∧
      (∀ attempts, 1 ≤ attempts → ∃ seconds, retryDelay briefConfig attempts = .ok seconds) ∧
      ∃ job ∈ (run overtakenUses (empty briefConfig, ())).1.jobs,
        (job.status = .cancelled ∧ job.attempts = 2 ∧ job.error = some "boom" ∧
          job.createdAt = 1 ∧ job.startedAt = some 7 ∧ job.completedAt = some 12) ∧
        Consistent (run overtakenUses (empty briefConfig, ())).1 job := by
  have quiet : ∀ use ∈ overtakenUses, use.around.Quiet := by
    rintro use member - - -
    obtain ⟨timed, -, rfl⟩ := List.mem_map.mp member
    rfl
  have timely : Timely overtakenUses := by
    show ([0, 1, 5, 7, 9, 12] : List Stamp).Pairwise (· ≤ ·)
    decide
  have delayable : ∀ attempts, 1 ≤ attempts →
      ∃ seconds, retryDelay briefConfig attempts = .ok seconds :=
    fun attempts _ => ⟨.int 1, retryDelay_fixed rfl attempts⟩
  have found : ∃ job ∈ (run overtakenUses (empty briefConfig, ())).1.jobs,
      job.status = .cancelled ∧ job.attempts = 2 ∧ job.error = some "boom" ∧
        job.createdAt = 1 ∧ job.startedAt = some 7 ∧ job.completedAt = some 12 := by
    decide +kernel
  obtain ⟨job, member, told⟩ := found
  exact ⟨quiet, timely, delayable, job, member, told,
    records_consistent briefConfig () overtakenUses quiet timely delayable job member⟩

end Queue

end Orchestra
