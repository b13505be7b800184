import Orchestra.Proofs.Queue.Omission

/-!
Jobs that have come to their end.

Such a job waits nowhere and runs nowhere, and it stays at its end until it is queued again by hand.
Nothing happens when it is cancelled, or when an outcome of it is reported, just as if it had no
record; but the late outcome of a cancelled job leads to an admission, and this finds something to
do where a slot was left idle.
-/

namespace Orchestra.Queue

variable {Time σ : Type} {around : Surroundings Time σ} {queue : Queue Time} {id : JobId}
  {operation : Operation}

/-- The job came to its end, and its record says when, as long as there is one. -/
def Departed (id : JobId) (queue : Queue Time) : Prop :=
  id < queue.issued ∧
    ∀ job, queue.job? id = some job → job.status.isTerminal ∧ job.completedAt.isSome

/-- The operation does something about a job that has come to its end: the job is queued again, or
an outcome of it is reported while a slot is idle and a job waits. -/
inductive Stirs (queue : Queue Time) (id : JobId) : Operation → Prop where
  | revived {job} (listed : queue.job? id = some job) (failed : job.status = .failed)
      (going : queue.stopping = false) : Stirs queue id (.retry id)
  | admits {operation job} (reports : operation.Reports id) (listed : queue.job? id = some job)
      (cancelled : job.status = .cancelled) (idle : ¬ Settled queue) : Stirs queue id operation

section Standing

/-- A job that has come to its end is in none of the places where jobs wait or run. -/
theorem Departed.aside (departed : Departed id queue) (sound : Sound queue) :
    ∃ standing, queue.Stands id standing ∧
      ∀ job place, standing = some (job, place) → place = .aside := by
  obtain ⟨standing, stands⟩ := sound.stands id
  refine ⟨standing, stands, ?_⟩
  rintro job place rfl
  obtain ⟨-, noted⟩ := departed.2 job stands.job?
  have fits := stands.fits.2
  cases place with
  | line | slot | delay => simp [fits.2] at noted
  | aside => rfl

theorem Departed.not_pending (departed : Departed id queue) (sound : Sound queue) :
    id ∉ queue.pending := by
  obtain ⟨standing, stands, aside⟩ := departed.aside sound
  rw [stands.mem_pending]
  rintro ⟨job, waits⟩
  cases aside job .line waits

theorem Departed.not_running (departed : Departed id queue) (sound : Sound queue) :
    id ∉ queue.running := by
  obtain ⟨standing, stands, aside⟩ := departed.aside sound
  rw [stands.mem_running]
  rintro ⟨job, runs⟩
  cases aside job .slot runs

theorem Departed.not_delayed (departed : Departed id queue) (sound : Sound queue) :
    queue.delayed.any (·.1 == id) = false := by
  obtain ⟨standing, stands, aside⟩ := departed.aside sound
  rw [List.any_eq_false]
  rintro ⟨other, due⟩ member own
  obtain rfl : other = id := by simpa using own
  obtain ⟨job, waits⟩ := stands.mem_delayed.mp member
  cases aside job (.delay due) waits

end Standing

section Passage

variable {next : Queue Time} {signals : List (Signal Time)} {before after : Standing Time}

/-- What the standing of a job says that has come to its end. -/
def EndNoted : Standing Time → Prop
  | some (job, _) => job.status.isTerminal ∧ job.completedAt.isSome
  | none => True

/-- Nothing but a retry takes a job back from its end. -/
theorem Passage.endNoted (passage : Passage around queue id operation before signals after)
    (fits : Fits id before) (old : id < queue.issued) (final : operation ≠ .retry id)
    (noted : EndNoted before) : EndNoted after := by
  cases passage with
  | stay => exact noted
  | enqueued new => exact absurd new (Nat.ne_of_lt old)
  | started waiting | refused waiting | cancelledWaiting waiting | readmitted waiting =>
      simp [EndNoted, waiting, JobStatus.isTerminal] at noted
  | cancelledRunning running | succeeded running | gaveUp running | postponed running
  | undelayable running | unminded running =>
      simp [EndNoted, running, JobStatus.isTerminal] at noted
  | renewed => exact (final rfl).elim
  | discarded => exact ⟨noted.1, by simp [noteEnd]⟩
  | dropped => trivial
  | undelayed => simp [EndNoted, fits.2.1, JobStatus.isTerminal] at noted

theorem Departed.endNoted (departed : Departed id queue) (stands : queue.Stands id before) :
    EndNoted before := by
  rcases before with _ | ⟨job, place⟩
  · trivial
  · exact departed.2 job stands.job?

/-- A job stays at its end until it is queued again by hand. -/
theorem Departed.apply (quiet : around.Quiet) {scene : Scene Time σ} (sound : Sound scene.1)
    (departed : Departed id scene.1) (final : operation ≠ .retry id) :
    Departed id (operation.apply around scene).1 := by
  obtain ⟨before, stands⟩ := sound.stands id
  obtain ⟨-, after, stands, old, noted⟩ :=
    (Operation.moves quiet operation sound.fresh).follow
      (fun scene standing => id < scene.1.issued ∧ EndNoted standing) sound stands
      ⟨departed.1, departed.endNoted stands⟩ fun state move passage fits holds =>
        ⟨Nat.lt_of_lt_of_le holds.1 move.issued.1, passage.endNoted fits holds.1 final holds.2⟩
  refine ⟨old, fun job listed => ?_⟩
  obtain ⟨place, rfl⟩ := stands.of_listed listed
  exact noted

end Passage

section Apply

variable {state : σ}

/-- Admission does nothing where nothing is left to do. -/
theorem admitAll_of_settled {scene : Scene Time σ} (settled : Settled scene.1) :
    admitAll around scene = scene := by
  unfold admitAll
  generalize scene.1.pending.length = limit
  cases limit with
  | zero => rfl
  | succ limit =>
      unfold admitUpTo
      split
      next => rfl
      next id rest line =>
        have closed : scene.1.stopping || !scene.1.hasRoom := by
          rcases settled with stopped | empty | taken
          · simp [stopped]
          · simp [empty] at line
          · simp [taken]
        rw [if_pos closed]

/-- Operations on a job without a record do nothing. -/
theorem apply_unlisted (about : operation.job? = some id) (gone : queue.job? id = none)
    (undelayed : queue.delayed.any (·.1 == id) = false) :
    operation.apply around (queue, state) = (queue, state) := by
  have unreleased : release around id (queue, state) = (none, queue, state) := by
    simp only [release, gone]
  cases operation with
  | register | registerValue | unregister | enqueue | cleanup | stop => cases about
  | cancel =>
      cases about
      simp [Operation.apply, cancel, gone]
  | retry =>
      cases about
      simp [Operation.apply, retry, gone]
  | complete =>
      cases about
      simp [Operation.apply, complete, unreleased]
  | fail =>
      cases about
      simp [Operation.apply, fail, unreleased]
  | wake =>
      cases about
      simp [Operation.apply, wake, undelayed]

/-- A record that is as a change would make it stays. -/
theorem edit_same {change : Job → Job} {standing : Standing Time}
    (stands : queue.Stands id standing)
    (same : ∀ job, queue.job? id = some job → change job = job) : queue.edit id change = queue := by
  have kept : queue.jobs.map (fun job => if job.id == id then change job else job) =
      queue.jobs.map fun job => job := by
    apply List.map_congr_left
    intro job member
    split
    next own =>
      obtain ⟨place, rfl⟩ := stands.of_mem member (by simpa using own)
      exact same job stands.job?
    next => rfl
  rw [List.map_id'] at kept
  simp only [edit, kept]

/-- The late outcome of a cancelled job leads to an admission, and to nothing else. -/
theorem Departed.release_cancelled (departed : Departed id queue) (sound : Sound queue) {job : Job}
    (listed : queue.job? id = some job) (cancelled : job.status = .cancelled) :
    release around id (queue, state) = (none, admitAll around (queue, state)) := by
  obtain ⟨standing, stands⟩ := sound.stands id
  have unslotted : queue.vacate id = queue := vacate_absent (departed.not_running sound)
  have ended : queue.edit id (noteEnd around.stamp) = queue := by
    apply edit_same stands
    intro job listed
    obtain ⟨stamp, noted⟩ := Option.isSome_iff_exists.mp (departed.2 job listed).2
    have kept : job.completedAt.or (some around.stamp) = job.completedAt := by simp [noted]
    simp only [noteEnd, kept]
  have released := release_spec around id queue state
  generalize release around id (queue, state) = outcome at released
  cases released with
  | missing gone => cases gone.symm.trans listed
  | dropped => rw [unslotted, ended]
  | counted _ _ slot => exact (departed.not_running sound slot).elim
  | ignored again kept =>
      obtain rfl := Option.some.inj (listed.symm.trans again)
      exact (kept cancelled).elim

/-- Other late outcomes are ignored. -/
theorem Departed.release_other (departed : Departed id queue) (sound : Sound queue)
    (kept : ∀ job, queue.job? id = some job → job.status ≠ .cancelled) :
    release around id (queue, state) = (none, queue, state) := by
  have unslotted : queue.vacate id = queue := vacate_absent (departed.not_running sound)
  have released := release_spec around id queue state
  generalize release around id (queue, state) = outcome at released
  cases released with
  | missing => rfl
  | dropped listed cancelled => exact (kept _ listed cancelled).elim
  | counted _ _ slot => exact (departed.not_running sound slot).elim
  | ignored => rw [unslotted]

/-- Operations on a job that has come to its end do nothing, unless they stir the queue. -/
theorem Departed.apply_calm (departed : Departed id queue) (sound : Sound queue)
    (about : operation.job? = some id) (calm : ¬ Stirs queue id operation) :
    operation.apply around (queue, state) = (queue, state) := by
  have undelayed := departed.not_delayed sound
  cases listed : queue.job? id with
  | none => exact apply_unlisted about listed undelayed
  | some job =>
      have ended := (departed.2 job listed).1
      have unreleased (reports : operation.Reports id) :
          release around id (queue, state) = (none, queue, state) := by
        by_cases cancelled : job.status = .cancelled
        · have settled : Settled queue := Classical.byContradiction fun idle =>
            calm (.admits reports listed cancelled idle)
          rw [departed.release_cancelled sound listed cancelled, admitAll_of_settled settled]
        · apply departed.release_other sound
          intro other again
          obtain rfl := Option.some.inj (listed.symm.trans again)
          exact cancelled
      cases operation with
      | register | registerValue | unregister | enqueue | cleanup | stop => cases about
      | cancel =>
          cases about
          cases status : job.status <;>
            simp_all [Operation.apply, cancel, JobStatus.isTerminal]
      | retry =>
          cases about
          have refused : job.status = .failed → queue.stopping := fun failed =>
            Classical.byContradiction fun going =>
              calm (.revived listed failed (by simpa using going))
          by_cases failed : job.status = .failed <;>
            simp [Operation.apply, retry, listed, failed, refused]
      | complete =>
          cases about
          simp [Operation.apply, complete, unreleased rfl]
      | fail =>
          cases about
          simp [Operation.apply, fail, unreleased rfl]
      | wake =>
          cases about
          simp [Operation.apply, wake, undelayed]

end Apply

section Stir

theorem Stirs.about (stirs : Stirs queue id operation) : operation.job? = some id := by
  cases stirs with
  | revived => rfl
  | admits reports =>
      cases operation with
      | complete | fail => exact congrArg some reports
      | _ => exact reports.elim

/-- The late outcome of a cancelled job leads to an admission. -/
theorem Departed.apply_cancelled (departed : Departed id queue) (sound : Sound queue) {job : Job}
    (reports : operation.Reports id) (listed : queue.job? id = some job)
    (cancelled : job.status = .cancelled) {state : σ} :
    operation.apply around (queue, state) = admitAll around (queue, state) := by
  have released : release around id (queue, state) = (none, admitAll around (queue, state)) :=
    departed.release_cancelled sound listed cancelled
  cases operation with
  | complete =>
      obtain rfl : _ = id := reports
      simp [Operation.apply, complete, released]
  | fail =>
      obtain rfl : _ = id := reports
      simp [Operation.apply, fail, released]
  | _ => exact reports.elim

theorem receive_taped (signals : List (Signal Time)) (tape : List (Signal Time)) :
    tape.length ≤ (signals.foldl (around.taped.receive queue) tape).length := by
  induction signals generalizing tape with
  | nil => exact Nat.le_refl _
  | cons signal rest ih =>
      refine Nat.le_trans ?_ (ih _)
      cases signal with
      | told event =>
          simp only [Surroundings.receive, Surroundings.taped]
          split <;> simp
      | launched | minded => simp [Surroundings.receive, Surroundings.taped]

/-- Nothing is erased from a tape. -/
theorem Moves.taped_le {first last : Scene Time (List (Signal Time))}
    (moves : Moves around.taped operation first last) : first.2.length ≤ last.2.length := by
  apply moves.preserves (fun scene => first.2.length ≤ scene.2.length)
  · intro queue signals next tape move longer
    exact Nat.le_trans longer (receive_taped signals tape)
  · exact Nat.le_refl _

/-- A job that is queued again is told of. -/
theorem retry_taped_lt {tape : List (Signal Time)} {job : Job}
    (listed : queue.job? id = some job) (failed : job.status = .failed)
    (going : queue.stopping = false) :
    tape.length < (retry around.taped id (queue, tape)).2.2.length := by
  have renewed : ((queue.edit id Job.renew).append id).job? id = some job.renew :=
    job?_edit_self _ (fun _ => rfl) listed
  have told : Scene.tell around.taped .retried id ((queue.edit id Job.renew).append id, tape) =
      ((queue.edit id Job.renew).append id, tape ++ [.told (.retried job.renew)]) := by
    simp [Scene.tell, renewed, Surroundings.taped, Event.topic]
  have moves : Moves around.taped (.retry id) _ (admitAll around.taped
      (Scene.tell around.taped .retried id ((queue.edit id Job.renew).append id, tape))) :=
    admitAll_moves around.taped_quiet _
  have longer := moves.taped_le
  rw [told, List.length_append] at longer
  simpa [retry, listed, failed, going, Scene.edit, told] using Nat.lt_of_succ_le longer

end Stir

end Orchestra.Queue
