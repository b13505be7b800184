import Orchestra.Proofs.Queue.Acts

/-!
How a single job passes through a queue.

At any time a job has no record, or it has one record and is in one place. A move takes a job from
one standing to another, and sends the signals that concern it, as listed here. This holds of every
run with quiet listeners, also after failures of the queue itself and after it was stopped.
-/

namespace Orchestra

variable {Time σ : Type}

/-- The signal is about a job. -/
def Signal.concerns (id : JobId) : Signal Time → Bool
  | .told event => event.job?.any fun job => job.id == id
  | .launched job _ | .minded job _ => job == id

namespace Queue

/-- Where a job is while it has a record. -/
inductive Place (Time : Type) where
  | line
  | slot
  | delay (due : Time)
  /-- In none of the places where jobs wait or run. -/
  | aside

/-- The record of a job and its place; none for a job without a record. -/
abbrev Standing (Time : Type) := Option (Job × Place Time)

/-- The card of a job that stands so. -/
def Card.ofStanding : Standing Time → Card Time
  | none => {}
  | some (job, .line) => { records := [job], line := 1 }
  | some (job, .slot) => { records := [job], slots := 1 }
  | some (job, .delay due) => { records := [job], delays := [due] }
  | some (job, .aside) => { records := [job] }

/-- The record of a job allows its place. A job that was put aside without an end is lost. -/
def Fits (id : JobId) : Standing Time → Prop
  | none => True
  | some (job, place) => job.id = id ∧
    match place with
    | .line | .delay _ => job.status = .pending ∧ job.completedAt = none
    | .slot => (job.status = .running ∨ job.status = .cancelled) ∧ job.completedAt = none
    | .aside => job.status.isTerminal ∨ job.completedAt = none

/-- The standing of a job in a queue. -/
structure Stands (queue : Queue Time) (id : JobId) (standing : Standing Time) : Prop where
  card : queue.card id = Card.ofStanding standing
  fits : Fits id standing

/-- Every job stands somewhere, and numbers that were not issued yet belong to no job. -/
structure Sound (queue : Queue Time) : Prop where
  stands : ∀ id, ∃ standing, queue.Stands id standing
  unissued : ∀ id, queue.issued ≤ id → queue.Stands id none

/-- What a move of a queue means for one job. -/
inductive Passage (around : Surroundings Time σ) (queue : Queue Time) (id : JobId) :
    Operation → Standing Time → List (Signal Time) → Standing Time → Prop where
  | stay {operation standing} : Passage around queue id operation standing [] standing
  | enqueued {operation name context workflow} (new : id = queue.issued)
      (known : queue.workflow? name = some workflow) :
      Passage around queue id operation none
        [.told (.enqueued (queue.newJob name context around.stamp))]
        (some (queue.newJob name context around.stamp, .line))
  | started {operation workflow} {job : Job} (waiting : job.status = .pending)
      (known : queue.workflow? job.workflow = some workflow)
      (timed : around.runsJobs → around.clock.isSome) :
      Passage around queue id operation (some (job, .line))
        ((if around.runsJobs then [.launched id workflow] else []) ++
          [.told (.started (job.start around.stamp)),
            .told (.execute (job.start around.stamp) workflow)])
        (some (job.start around.stamp, .slot))
  | refused {operation error} {job : Job} (waiting : job.status = .pending)
      (reason : queue.workflow? job.workflow = none ∨ around.runsJobs ∧ around.clock = none) :
      Passage around queue id operation (some (job, .line))
        [.told (.failed (job.refuse error around.stamp))]
        (some (job.refuse error around.stamp, .aside))
  | cancelledRunning {place} {job : Job} (running : job.status = .running) :
      Passage around queue id (.cancel id) (some (job, place))
        [.told (.cancelled { job with status := .cancelled })]
        (some ({ job with status := .cancelled }, place))
  | cancelledWaiting {place} {job : Job} (waiting : job.status = .pending) :
      Passage around queue id (.cancel id) (some (job, place))
        [.told (.cancelled (callOff around.stamp job))]
        (some (callOff around.stamp job, .aside))
  | renewed {job : Job} (failed : job.status = .failed) :
      Passage around queue id (.retry id) (some (job, .aside)) [.told (.retried job.renew)]
        (some (job.renew, .line))
  | discarded {operation place} {job : Job} (reports : operation.Reports id)
      (cancelled : job.status = .cancelled) :
      Passage around queue id operation (some (job, place)) []
        (some (noteEnd around.stamp job, .aside))
  | succeeded {result} {job : Job} (running : job.status = .running) :
      Passage around queue id (.complete id result) (some (job, .slot))
        [.told (.completed (job.succeed result around.stamp))]
        (some (job.succeed result around.stamp, .aside))
  | gaveUp {error} {job : Job} (running : job.status = .running)
      (spent : ¬ (job.attempts < queue.budget job.workflow ∧
        (queue.workflow? job.workflow).isSome)) :
      Passage around queue id (.fail id error) (some (job, .slot))
        [.told (.failed ((noteError error job).giveUp around.stamp))]
        (some ((noteError error job).giveUp around.stamp, .aside))
  | postponed {error seconds now due} {job : Job} (running : job.status = .running)
      (left : job.attempts < queue.budget job.workflow)
      (known : (queue.workflow? job.workflow).isSome)
      (delay : retryDelay queue.config job.attempts = .ok seconds)
      (timed : around.clock = some now) (counted : around.after now seconds = .ok due) :
      Passage around queue id (.fail id error) (some (job, .slot)) [.minded id due]
        (some (putOff (noteError error job), .delay due))
  | undelayable {error} {job : Job} (running : job.status = .running)
      (left : job.attempts < queue.budget job.workflow)
      (known : (queue.workflow? job.workflow).isSome) :
      Passage around queue id (.fail id error) (some (job, .slot)) []
        (some (noteError error job, .aside))
  | unminded {error} {job : Job} (running : job.status = .running)
      (left : job.attempts < queue.budget job.workflow)
      (known : (queue.workflow? job.workflow).isSome) :
      Passage around queue id (.fail id error) (some (job, .slot)) []
        (some (putOff (noteError error job), .aside))
  | readmitted {due} {job : Job} (waiting : job.status = .pending) :
      Passage around queue id (.wake id) (some (job, .delay due)) [.told (.readmitted job)]
        (some (job, .line))
  | dropped {age} {job : Job} (ended : job.status.isTerminal) :
      Passage around queue id (.cleanup age) (some (job, .aside)) [] none
  | undelayed {due} {job : Job} :
      Passage around queue id .stop (some (job, .delay due)) [] (some (job, .aside))

section Standing

variable {queue : Queue Time} {id : JobId} {standing : Standing Time}

theorem Stands.job? (stands : queue.Stands id standing) :
    queue.job? id = standing.map Prod.fst := by
  rw [job?_eq_card, stands.card]
  rcases standing with _ | ⟨job, _ | _ | _ | _⟩ <;> rfl

theorem Card.ofStanding_injective {first second : Standing Time}
    (same : Card.ofStanding first = Card.ofStanding second) : first = second := by
  rcases first with _ | ⟨job, _ | _ | _ | _⟩ <;> rcases second with _ | ⟨other, _ | _ | _ | _⟩ <;>
    simp_all [Card.ofStanding]

/-- A job stands in one way only. -/
theorem Stands.unique {other : Standing Time} (stands : queue.Stands id standing)
    (again : queue.Stands id other) : standing = other :=
  Card.ofStanding_injective (stands.card.symm.trans again.card)

theorem Stands.of_listed {job : Job} (stands : queue.Stands id standing)
    (listed : queue.job? id = some job) : ∃ place, standing = some (job, place) := by
  rw [stands.job?] at listed
  obtain ⟨⟨_, place⟩, rfl, rfl⟩ := Option.map_eq_some_iff.mp listed
  exact ⟨place, rfl⟩

theorem Stands.mem_pending (stands : queue.Stands id standing) :
    id ∈ queue.pending ↔ ∃ job, standing = some (job, .line) := by
  rw [mem_pending_iff_card, stands.card]
  rcases standing with _ | ⟨job, _ | _ | _ | _⟩ <;> simp [Card.ofStanding]

theorem Stands.mem_running (stands : queue.Stands id standing) :
    id ∈ queue.running ↔ ∃ job, standing = some (job, .slot) := by
  rw [mem_running_iff_card, stands.card]
  rcases standing with _ | ⟨job, _ | _ | _ | _⟩ <;> simp [Card.ofStanding]

theorem Stands.mem_delayed {due : Time} (stands : queue.Stands id standing) :
    (id, due) ∈ queue.delayed ↔ ∃ job, standing = some (job, .delay due) := by
  rw [mem_delayed_iff_card, stands.card]
  rcases standing with _ | ⟨job, _ | _ | _ | _⟩ <;> simp [Card.ofStanding, eq_comm]

/-- A job is in line once at most, and has one slot at most. -/
theorem Stands.once (stands : queue.Stands id standing) :
    (queue.card id).line ≤ 1 ∧ (queue.card id).slots ≤ 1 := by
  rw [stands.card]
  rcases standing with _ | ⟨job, _ | _ | _ | _⟩ <;> simp [Card.ofStanding]

end Standing

/-- A passage ends in a standing whose record allows its place. -/
theorem Passage.fits {around : Surroundings Time σ} {queue : Queue Time} {id : JobId}
    {operation : Operation} {before after : Standing Time} {signals : List (Signal Time)}
    (passage : Passage around queue id operation before signals after)
    (fits : Fits id before) : Fits id after := by
  cases passage with
  | stay => exact fits
  | enqueued new => exact ⟨new.symm, rfl, rfl⟩
  | started => exact ⟨fits.1, .inl rfl, fits.2.2⟩
  | refused => exact ⟨fits.1, .inl rfl⟩
  | @cancelledRunning place job running =>
      refine ⟨fits.1, ?_⟩
      cases place with
      | line | delay => simp [fits.2.1] at running
      | slot => exact ⟨.inr rfl, fits.2.2⟩
      | aside => exact .inl rfl
  | cancelledWaiting => exact ⟨fits.1, .inl rfl⟩
  | renewed => exact ⟨fits.1, rfl, rfl⟩
  | discarded _ cancelled =>
      exact ⟨fits.1, .inl (by simp [noteEnd, cancelled, JobStatus.isTerminal])⟩
  | succeeded => exact ⟨fits.1, .inl rfl⟩
  | gaveUp => exact ⟨fits.1, .inl rfl⟩
  | postponed => exact ⟨fits.1, rfl, fits.2.2⟩
  | undelayable => exact ⟨fits.1, .inr fits.2.2⟩
  | unminded => exact ⟨fits.1, .inr fits.2.2⟩
  | readmitted => exact fits
  | dropped => trivial
  | undelayed => exact ⟨fits.1, .inr fits.2.2⟩

/-- No passage changes the workflow of a job. -/
theorem Passage.workflow_eq {around : Surroundings Time σ} {queue : Queue Time} {id : JobId}
    {operation : Operation} {before after : Standing Time} {signals : List (Signal Time)}
    (passage : Passage around queue id operation before signals after) (old : id < queue.issued)
    {changed : Job} {moved : Place Time} (stands : after = some (changed, moved)) :
    ∃ job place, before = some (job, place) ∧ changed.workflow = job.workflow := by
  cases passage with
  | stay => exact ⟨changed, moved, stands, rfl⟩
  | enqueued new => exact absurd new (Nat.ne_of_lt old)
  | dropped => cases stands
  | _ =>
      cases stands
      exact ⟨_, _, rfl, rfl⟩

section Move

variable {around : Surroundings Time σ} {operation : Operation} {queue next : Queue Time}
  {signals : List (Signal Time)} {id other : JobId} {standing : Standing Time} {job : Job}

/-- The passage of a job to a new card. -/
def PassesTo (around : Surroundings Time σ) (operation : Operation) (queue next : Queue Time)
    (signals : List (Signal Time)) (id : JobId) (standing : Standing Time) : Prop :=
  ∃ after, Passage around queue id operation standing (signals.filter (·.concerns id)) after ∧
    next.card id = Card.ofStanding after

/-- A job whose card stays and whom no signal concerns stays where it stands. -/
theorem PassesTo.stay (stands : queue.Stands id standing) (same : next.card id = queue.card id)
    (unconcerned : signals.filter (·.concerns id) = []) :
    PassesTo around operation queue next signals id standing :=
  ⟨standing, unconcerned ▸ .stay, same.trans stands.card⟩

/-- A job passes on where all signals concern it. -/
theorem PassesTo.pass {after : Standing Time}
    (passage : Passage around queue id operation standing signals after)
    (concerned : ∀ signal ∈ signals, signal.concerns id)
    (moved : next.card id = Card.ofStanding after) :
    PassesTo around operation queue next signals id standing :=
  ⟨after, (List.filter_eq_self.mpr concerned).symm ▸ passage, moved⟩

theorem told_concerns {event : Event} (subject : event.job? = some job) (own : job.id = id) :
    ∀ signal ∈ [(.told event : Signal Time)], signal.concerns id := by
  simp [Signal.concerns, subject, own]

theorem told_unconcerned {event : Event} (subject : event.job? = some job) (own : job.id = id)
    (different : other ≠ id) :
    [(.told event : Signal Time)].filter (·.concerns other) = [] := by
  simp [Signal.concerns, subject, own, different.symm]

theorem Stands.of_line (stands : queue.Stands id standing) {rest : List JobId}
    (line : queue.pending = id :: rest) (listed : queue.job? id = some job) :
    standing = some (job, .line) := by
  obtain ⟨first, rfl⟩ := stands.mem_pending.mp (line ▸ List.mem_cons_self)
  obtain ⟨place, same⟩ := stands.of_listed listed
  simp_all

theorem Stands.of_slot (stands : queue.Stands id standing) (slot : id ∈ queue.running)
    (listed : queue.job? id = some job) : standing = some (job, .slot) := by
  obtain ⟨first, rfl⟩ := stands.mem_running.mp slot
  obtain ⟨place, same⟩ := stands.of_listed listed
  simp_all

theorem enqueued_passes {name : String} {context : Context} {workflow : Definition}
    (stands : queue.Stands id standing) (unissued : queue.issued = id → standing = none)
    (known : queue.workflow? name = some workflow) :
    PassesTo around operation queue
      { queue with
        jobs := queue.jobs ++ [queue.newJob name context around.stamp]
        pending := queue.pending ++ [queue.issued]
        issued := queue.issued + 1 }
      [.told (.enqueued (queue.newJob name context around.stamp))] id standing := by
  have number : (queue.newJob name context around.stamp).id = queue.issued := rfl
  by_cases own : id = queue.issued
  · subst own
    obtain rfl := unissued rfl
    refine .pass (.enqueued rfl known) (told_concerns rfl rfl) ?_
    rw [card_add_self number, stands.card]
    rfl
  · exact .stay stands (card_add_other number _ own) (told_unconcerned rfl number own)

theorem started_passes {rest : List JobId} {workflow : Definition}
    (stands : queue.Stands id standing) (line : queue.pending = other :: rest)
    (listed : queue.job? other = some job) (waiting : job.status = .pending)
    (known : queue.workflow? job.workflow = some workflow)
    (timed : around.runsJobs → around.clock.isSome) :
    PassesTo around operation queue
      ((edit other (·.start around.stamp) { queue with pending := rest }).occupy other)
      ((if around.runsJobs then [.launched other workflow] else []) ++
        [.told (.started (job.start around.stamp)),
          .told (.execute (job.start around.stamp) workflow)]) id standing := by
  have number : (job.start around.stamp).id = other := show job.id = other from job?_id listed
  have keeps : KeepsId (·.start around.stamp) := fun _ => rfl
  by_cases own : id = other
  · subst own
    obtain rfl := stands.of_line line listed
    refine .pass (.started waiting known timed) ?_ ?_
    · cases around.runsJobs <;> simp [Signal.concerns, Event.job?, number]
    · have popped : (edit id (·.start around.stamp) { queue with pending := rest }).card id =
          { records := [job.start around.stamp] } := by
        rw [card_edit_self _ keeps, card_pop_self line, stands.card]
        rfl
      rw [card_occupy_self (by rw [popped]), popped]
      rfl
  · refine .stay stands ?_ ?_
    · rw [card_occupy_other own, card_edit_other _ keeps own, card_pop_other line own]
    · cases around.runsJobs <;> simp [Signal.concerns, Event.job?, number, Ne.symm own]

theorem refused_passes {rest : List JobId} {error : String}
    (stands : queue.Stands id standing) (line : queue.pending = other :: rest)
    (listed : queue.job? other = some job) (waiting : job.status = .pending)
    (reason : queue.workflow? job.workflow = none ∨ around.runsJobs ∧ around.clock = none) :
    PassesTo around operation queue
      (edit other (·.refuse error around.stamp) { queue with pending := rest })
      [.told (.failed (job.refuse error around.stamp))] id standing := by
  have number : (job.refuse error around.stamp).id = other :=
    show job.id = other from job?_id listed
  have keeps : KeepsId (·.refuse error around.stamp) := fun _ => rfl
  by_cases own : id = other
  · subst own
    obtain rfl := stands.of_line line listed
    refine .pass (.refused waiting reason) (told_concerns rfl number) ?_
    rw [card_edit_self _ keeps, card_pop_self line, stands.card]
    rfl
  · refine .stay stands ?_ (told_unconcerned rfl number own)
    rw [card_edit_other _ keeps own, card_pop_other line own]

/-- A job that is in line waits, so that no job is passed over. -/
theorem Stands.not_skipped (stands : queue.Stands id standing) {rest : List JobId}
    (line : queue.pending = id :: rest)
    (gone : ∀ job, queue.job? id = some job → job.status ≠ .pending) : False := by
  obtain ⟨job, rfl⟩ := stands.mem_pending.mp (line ▸ List.mem_cons_self)
  exact gone job stands.job? stands.fits.2.1

theorem cancelledRunning_passes (stands : queue.Stands id standing)
    (listed : queue.job? other = some job) (running : job.status = .running) :
    PassesTo around (.cancel other) queue
      (queue.edit other fun job => { job with status := .cancelled })
      [.told (.cancelled { job with status := .cancelled })] id standing := by
  have number : job.id = other := job?_id listed
  have keeps : KeepsId fun job => { job with status := .cancelled } := fun _ => rfl
  by_cases own : id = other
  · subst own
    obtain ⟨place, rfl⟩ := stands.of_listed listed
    refine .pass (.cancelledRunning running) (told_concerns rfl number) ?_
    rw [card_edit_self _ keeps, stands.card]
    cases place <;> rfl
  · exact .stay stands (card_edit_other _ keeps own) (told_unconcerned rfl number own)

theorem cancelledWaiting_passes (stands : queue.Stands id standing)
    (listed : queue.job? other = some job) (waiting : job.status = .pending) :
    PassesTo around (.cancel other) queue
      (undelay other
        { queue.edit other (callOff around.stamp) with pending := queue.pending.erase other })
      [.told (.cancelled (callOff around.stamp job))] id standing := by
  have number : job.id = other := job?_id listed
  have keeps : KeepsId (callOff around.stamp) := fun _ => rfl
  by_cases own : id = other
  · subst own
    obtain ⟨place, rfl⟩ := stands.of_listed listed
    refine .pass (.cancelledWaiting waiting) (told_concerns rfl number) ?_
    rw [card_undelay_self]
    have left := card_leave_self id (queue.edit id (callOff around.stamp))
    rw [card_edit_self _ keeps, stands.card] at left
    refine (congrArg (fun card : Card Time => { card with delays := [] }) left).trans ?_
    have fits := stands.fits.2
    cases place with
    | line | delay | aside => rfl
    | slot => simp [waiting] at fits
  · refine .stay stands ?_ (told_unconcerned rfl number own)
    rw [card_undelay_other own]
    exact (card_leave_other own).trans (card_edit_other _ keeps own)

theorem renewed_passes (stands : queue.Stands id standing)
    (listed : queue.job? other = some job) (failed : job.status = .failed) :
    PassesTo around (.retry other) queue ((queue.edit other Job.renew).append other)
      [.told (.retried job.renew)] id standing := by
  have number : job.renew.id = other := show job.id = other from job?_id listed
  have keeps : KeepsId Job.renew := fun _ => rfl
  by_cases own : id = other
  · subst own
    obtain ⟨place, rfl⟩ := stands.of_listed listed
    obtain rfl : place = .aside := by
      have fits := stands.fits.2
      cases place <;> simp_all
    refine .pass (.renewed failed) (told_concerns rfl number) ?_
    rw [card_append_self, card_edit_self _ keeps, stands.card]
    rfl
  · refine .stay stands ?_ (told_unconcerned rfl number own)
    rw [card_append_other own, card_edit_other _ keeps own]

/-- A job in a slot is running or cancelled, so that only the reports of these free a slot. -/
theorem Stands.not_running (stands : queue.Stands id standing)
    (listed : queue.job? id = some job) (kept : job.status ≠ .cancelled)
    (idle : ¬ (job.status = .running ∧ id ∈ queue.running)) : id ∉ queue.running := by
  intro slot
  obtain rfl := stands.of_slot slot listed
  rcases stands.fits.2.1 with running | cancelled
  · exact idle ⟨running, slot⟩
  · exact kept cancelled

theorem released_passes (stands : queue.Stands id standing)
    (listed : queue.job? other = some job) (kept : job.status ≠ .cancelled)
    (idle : ¬ (job.status = .running ∧ other ∈ queue.running)) :
    PassesTo around operation queue (queue.vacate other) [] id standing := by
  refine .stay stands ?_ rfl
  by_cases own : id = other
  · subst own
    have outside : id ∉ queue.running := stands.not_running listed kept idle
    have free : (queue.card id).slots = 0 := List.count_eq_zero.mpr outside
    rw [card_vacate_self, ← free]
  · exact card_vacate_other own

/-- The outcome of a cancelled job takes it out of its slot, if it still holds one. -/
theorem card_discarded_self {place : Place Time} (stands : queue.Stands id (some (job, place)))
    (cancelled : job.status = .cancelled) (stamp : Stamp) :
    ((queue.vacate id).edit id (noteEnd stamp)).card id = { records := [noteEnd stamp job] } := by
  have keeps : KeepsId (noteEnd stamp) := fun _ => rfl
  rw [card_edit_self _ keeps, card_vacate_self, stands.card]
  have fits := stands.fits.2
  cases place with
  | slot | aside => rfl
  | line | delay => simp [cancelled] at fits

theorem discarded_passes (stands : queue.Stands id standing) (reports : operation.Reports other)
    (listed : queue.job? other = some job) (cancelled : job.status = .cancelled) :
    PassesTo around operation queue ((queue.vacate other).edit other (noteEnd around.stamp)) []
      id standing := by
  have keeps : KeepsId (noteEnd around.stamp) := fun _ => rfl
  by_cases own : id = other
  · subst own
    obtain ⟨place, rfl⟩ := stands.of_listed listed
    exact .pass (.discarded reports cancelled) (by simp)
      (card_discarded_self stands cancelled around.stamp)
  · refine .stay stands ?_ rfl
    rw [card_edit_other _ keeps own, card_vacate_other own]

/-- The outcome of an attempt takes its job out of the slot, with a new record. -/
theorem card_outcome_self (stands : queue.Stands id (some (job, .slot))) (change : Job → Job)
    (keeps : KeepsId change) :
    ((queue.vacate id).edit id change).card id = { records := [change job] } := by
  rw [card_edit_self _ keeps, card_vacate_self, stands.card]
  rfl

theorem card_outcome_other (change : Job → Job) (keeps : KeepsId change)
    (different : id ≠ other) :
    ((queue.vacate other).edit other change).card id = queue.card id := by
  rw [card_edit_other _ keeps different, card_vacate_other different]

/-- The report of a failed attempt notes the error first. -/
theorem card_setback_self (stands : queue.Stands id (some (job, .slot))) (error : Option String)
    (change : Job → Job) (keeps : KeepsId change) :
    (((queue.vacate id).edit id (noteError error)).edit id change).card id =
      { records := [change (noteError error job)] } := by
  have noted : KeepsId (noteError error) := fun _ => rfl
  rw [card_edit_self _ keeps, card_outcome_self stands _ noted]
  rfl

theorem card_setback_other (error : Option String) (change : Job → Job) (keeps : KeepsId change)
    (different : id ≠ other) :
    (((queue.vacate other).edit other (noteError error)).edit other change).card id =
      queue.card id := by
  have noted : KeepsId (noteError error) := fun _ => rfl
  rw [card_edit_other _ keeps different, card_outcome_other _ noted different]

theorem card_postponed_self (stands : queue.Stands id (some (job, .slot)))
    (error : Option String) (due : Time) :
    card id { ((queue.vacate id).edit id (noteError error)).edit id putOff with
        delayed := queue.delayed ++ [(id, due)] } =
      { records := [putOff (noteError error job)], delays := [due] } := by
  refine (card_delay_self id due _).trans ?_
  rw [card_setback_self stands error putOff fun _ => rfl]
  rfl

theorem succeeded_passes {result : Value} (stands : queue.Stands id standing)
    (listed : queue.job? other = some job) (running : job.status = .running)
    (slot : other ∈ queue.running) :
    PassesTo around (.complete other result) queue
      ((queue.vacate other).edit other (·.succeed result around.stamp))
      [.told (.completed (job.succeed result around.stamp))] id standing := by
  have number : (job.succeed result around.stamp).id = other :=
    show job.id = other from job?_id listed
  have keeps : KeepsId (·.succeed result around.stamp) := fun _ => rfl
  by_cases own : id = other
  · subst own
    obtain rfl := stands.of_slot slot listed
    exact .pass (.succeeded running) (told_concerns rfl number) (card_outcome_self stands _ keeps)
  · exact .stay stands (card_outcome_other _ keeps own) (told_unconcerned rfl number own)

theorem gaveUp_passes {error : Option String} (stands : queue.Stands id standing)
    (listed : queue.job? other = some job) (running : job.status = .running)
    (slot : other ∈ queue.running)
    (spent : ¬ (job.attempts < queue.budget job.workflow ∧
      (queue.workflow? job.workflow).isSome)) :
    PassesTo around (.fail other error) queue
      (((queue.vacate other).edit other (noteError error)).edit other (·.giveUp around.stamp))
      [.told (.failed ((noteError error job).giveUp around.stamp))] id standing := by
  have number : ((noteError error job).giveUp around.stamp).id = other :=
    show job.id = other from job?_id listed
  have keeps : KeepsId (·.giveUp around.stamp) := fun _ => rfl
  by_cases own : id = other
  · subst own
    obtain rfl := stands.of_slot slot listed
    exact .pass (.gaveUp running spent) (told_concerns rfl number)
      (card_setback_self stands error _ keeps)
  · exact .stay stands (card_setback_other error _ keeps own) (told_unconcerned rfl number own)

theorem unminded_passes {error : Option String} (stands : queue.Stands id standing)
    (listed : queue.job? other = some job) (running : job.status = .running)
    (slot : other ∈ queue.running) (left : job.attempts < queue.budget job.workflow)
    (known : (queue.workflow? job.workflow).isSome) :
    PassesTo around (.fail other error) queue
      (((queue.vacate other).edit other (noteError error)).edit other putOff) [] id standing := by
  have keeps : KeepsId putOff := fun _ => rfl
  by_cases own : id = other
  · subst own
    obtain rfl := stands.of_slot slot listed
    exact .pass (.unminded running left known) (by simp) (card_setback_self stands error _ keeps)
  · exact .stay stands (card_setback_other error _ keeps own) rfl

theorem postponed_passes {error : Option String} {seconds : Number} {now due : Time}
    (stands : queue.Stands id standing) (listed : queue.job? other = some job)
    (running : job.status = .running) (slot : other ∈ queue.running)
    (left : job.attempts < queue.budget job.workflow)
    (known : (queue.workflow? job.workflow).isSome)
    (delay : retryDelay queue.config job.attempts = .ok seconds)
    (timed : around.clock = some now) (counted : around.after now seconds = .ok due) :
    PassesTo around (.fail other error) queue
      { ((queue.vacate other).edit other (noteError error)).edit other putOff with
        delayed := queue.delayed ++ [(other, due)] } [.minded other due] id standing := by
  have keeps : KeepsId putOff := fun _ => rfl
  by_cases own : id = other
  · subst own
    obtain rfl := stands.of_slot slot listed
    exact .pass (.postponed running left known delay timed counted)
      (by simp [Signal.concerns]) (card_postponed_self stands error due)
  · refine .stay stands ?_ (by simp [Signal.concerns, Ne.symm own])
    exact (card_delay_other due own).trans (card_setback_other error _ keeps own)

theorem undelayable_passes {error : Option String} (stands : queue.Stands id standing)
    (listed : queue.job? other = some job) (running : job.status = .running)
    (slot : other ∈ queue.running) (left : job.attempts < queue.budget job.workflow)
    (known : (queue.workflow? job.workflow).isSome) :
    PassesTo around (.fail other error) queue
      ((queue.vacate other).edit other (noteError error)) [] id standing := by
  have noted : KeepsId (noteError error) := fun _ => rfl
  by_cases own : id = other
  · subst own
    obtain rfl := stands.of_slot slot listed
    exact .pass (.undelayable running left known) (by simp) (card_outcome_self stands _ noted)
  · exact .stay stands (card_outcome_other _ noted own) rfl

/-- A delay belongs to a job that waits, so that no other delay is forgotten. -/
theorem forgotten_passes (stands : queue.Stands id standing)
    (gone : ∀ job, queue.job? other = some job → job.status ≠ .pending) :
    PassesTo around (.wake other) queue (queue.undelay other) [] id standing := by
  refine .stay stands ?_ rfl
  by_cases own : id = other
  · subst own
    rw [card_undelay_self, stands.card]
    rcases standing with _ | ⟨job, _ | _ | due | _⟩
    case some.delay => exact absurd stands.fits.2.1 (gone job stands.job?)
    all_goals rfl
  · exact card_undelay_other own

theorem readmitted_passes (stands : queue.Stands id standing)
    (armed : queue.delayed.any (·.1 == other)) (listed : queue.job? other = some job)
    (waiting : job.status = .pending) :
    PassesTo around (.wake other) queue ((queue.undelay other).append other)
      [.told (.readmitted job)] id standing := by
  have number : job.id = other := job?_id listed
  by_cases own : id = other
  · subst own
    obtain ⟨⟨_, due⟩, member, same⟩ := List.any_eq_true.mp armed
    obtain rfl := beq_iff_eq.mp same
    obtain ⟨first, rfl⟩ := stands.mem_delayed.mp member
    obtain ⟨place, same⟩ := stands.of_listed listed
    obtain ⟨rfl, rfl⟩ := Prod.ext_iff.mp (Option.some.inj same)
    refine .pass (.readmitted waiting) (told_concerns rfl number) ?_
    rw [card_append_self, card_undelay_self, stands.card]
    rfl
  · refine .stay stands ?_ (told_unconcerned rfl number own)
    rw [card_append_other own, card_undelay_other own]

theorem cleaned_passes {age : Value} {cutoff : Int} (stands : queue.Stands id standing)
    (told : ∀ signal ∈ signals, ∃ count, signal = .told (.cleaned count)) :
    PassesTo around (.cleanup age) queue
      { queue with jobs := queue.jobs.filter fun job => !isStale cutoff job } signals id
      standing := by
  have unconcerned : signals.filter (·.concerns id) = [] := by
    refine List.filter_eq_nil_iff.mpr fun signal sent => ?_
    obtain ⟨count, rfl⟩ := told signal sent
    simp [Signal.concerns, Event.job?]
  have kept : card id { queue with jobs := queue.jobs.filter fun job => !isStale cutoff job } =
      { queue.card id with
        records := (queue.card id).records.filter fun job => !isStale cutoff job } := by
    simp only [card, List.filter_filter, Bool.and_comm]
  rw [stands.card] at kept
  obtain _ | ⟨job, place⟩ := standing
  · exact ⟨none, unconcerned ▸ .stay, kept⟩
  · by_cases stale : isStale cutoff job
    · have ended : job.status.isTerminal ∧ job.completedAt ≠ none := by
        cases ended : job.completedAt <;> simp_all [isStale]
      obtain rfl : place = .aside := by
        have fits := stands.fits.2
        cases place <;> simp_all
      exact ⟨none, unconcerned ▸ .dropped ended.1, by simp [kept, Card.ofStanding, stale]⟩
    · refine ⟨some (job, place), unconcerned ▸ .stay, ?_⟩
      cases place <;> simp [kept, Card.ofStanding, stale]

theorem stopped_passes (stands : queue.Stands id standing) :
    PassesTo around .stop queue queue.stop [] id standing := by
  have forgot : queue.stop.card id = { queue.card id with delays := [] } := rfl
  rw [stands.card] at forgot
  rcases standing with _ | ⟨job, _ | _ | due | _⟩
  case some.delay => exact ⟨some (job, .aside), .undelayed, forgot⟩
  all_goals exact ⟨_, .stay, forgot⟩

/-- Every move is a passage of each job. -/
theorem Move.passes (move : Move around operation queue signals next) (sound : Sound queue)
    (stands : queue.Stands id standing) :
    PassesTo around operation queue next signals id standing := by
  cases move with
  | registered => exact .stay stands rfl rfl
  | unregistered => exact .stay stands rfl rfl
  | enqueued _ known =>
      refine enqueued_passes stands (fun own => ?_) known
      exact stands.unique (sound.unissued id (Nat.le_of_eq own))
  | started line _ listed waiting known timed =>
      exact started_passes stands line listed waiting known timed
  | refused line listed waiting reason => exact refused_passes stands line listed waiting reason
  | skipped line gone =>
      obtain ⟨first, stands⟩ := sound.stands _
      exact (stands.not_skipped line gone).elim
  | cancelledRunning listed running => exact cancelledRunning_passes stands listed running
  | cancelledWaiting listed waiting => exact cancelledWaiting_passes stands listed waiting
  | renewed listed failed => exact renewed_passes stands listed failed
  | released _ listed kept idle => exact released_passes stands listed kept idle
  | discarded reports listed cancelled => exact discarded_passes stands reports listed cancelled
  | succeeded listed running slot => exact succeeded_passes stands listed running slot
  | gaveUp listed running slot spent => exact gaveUp_passes stands listed running slot spent
  | postponed listed running slot left known delay timed counted =>
      exact postponed_passes stands listed running slot left known delay timed counted
  | undelayable listed running slot left known =>
      exact undelayable_passes stands listed running slot left known
  | unminded listed running slot left known =>
      exact unminded_passes stands listed running slot left known
  | forgotten gone => exact forgotten_passes stands gone
  | readmitted armed listed waiting => exact readmitted_passes stands armed listed waiting
  | cleaned _ _ told => exact cleaned_passes stands told
  | stopped => exact stopped_passes stands

/-- Numbers are issued in order, one for each job that is put into the line. -/
theorem Move.issued (move : Move around operation queue signals next) :
    queue.issued ≤ next.issued ∧
      ∀ job, .told (.enqueued job) ∈ signals → next.issued = queue.issued + 1 := by
  cases move with
  | enqueued => exact ⟨Nat.le_succ _, fun _ _ => rfl⟩
  | started => cases around.runsJobs <;> exact ⟨Nat.le_refl _, by simp⟩
  | cleaned _ _ told =>
      refine ⟨Nat.le_refl _, fun job sent => ?_⟩
      obtain ⟨count, same⟩ := told _ sent
      cases same
  | _ => exact ⟨Nat.le_refl _, by simp⟩

/-- A move that concerns a job leaves the workflows alone. -/
theorem Move.workflow? (id : JobId) (move : Move around operation queue signals next)
    (concerned : signals.filter (·.concerns id) ≠ []) (name : String) :
    next.workflow? name = queue.workflow? name := by
  cases move with
  | registered | unregistered => exact (concerned rfl).elim
  | _ => rfl

theorem Move.config (move : Move around operation queue signals next) :
    next.config = queue.config := by
  cases move <;> rfl

/-- Jobs stand somewhere after a move. -/
theorem Sound.move (sound : Sound queue) (move : Move around operation queue signals next) :
    Sound next := by
  have passed : ∀ id standing, queue.Stands id standing →
      ∃ after, Passage around queue id operation standing (signals.filter (·.concerns id)) after ∧
        next.Stands id after := by
    intro id standing stands
    obtain ⟨after, passage, card⟩ := move.passes sound stands
    exact ⟨after, passage, card, passage.fits stands.fits⟩
  constructor
  · intro id
    obtain ⟨standing, stands⟩ := sound.stands id
    obtain ⟨after, -, stands⟩ := passed id standing stands
    exact ⟨after, stands⟩
  · intro id unissued
    obtain ⟨kept, counted⟩ := move.issued
    have absent := sound.unissued id (Nat.le_trans kept unissued)
    obtain ⟨after, passage, stands⟩ := passed id none absent
    generalize sent : signals.filter (·.concerns id) = own at passage
    cases passage with
    | stay => exact stands
    | enqueued new known =>
        have told := (List.mem_filter.mp (sent ▸ List.mem_singleton_self _)).1
        rw [counted _ told, new] at unissued
        exact absurd unissued (Nat.not_succ_le_self _)

end Move

section Run

variable {around : Surroundings Time σ}

theorem Sound.fresh {queue : Queue Time} (sound : Sound queue) :
    queue.job? queue.issued = none :=
  (sound.unissued queue.issued (Nat.le_refl _)).job?

/-- What every move of a queue in order preserves is preserved by every operation. -/
theorem Sound.preserves (Holds : Scene Time σ → Prop) {operation : Operation}
    (quiet : around.Quiet) {scene : Scene Time σ} (sound : Sound scene.1)
    (preserves : ∀ {queue signals next} (state : σ), Sound queue →
      Move around operation queue signals next → Holds (queue, state) →
      Holds (next, signals.foldl (around.receive next) state))
    (holds : Holds scene) :
    Sound (operation.apply around scene).1 ∧ Holds (operation.apply around scene) := by
  apply (Operation.moves quiet operation sound.fresh).preserves
    (fun scene => Sound scene.1 ∧ Holds scene)
  · intro queue signals next state move before
    exact ⟨before.1.move move, preserves state before.1 move before.2⟩
  · exact ⟨sound, holds⟩

/-- What every passage of a job preserves holds of the job after all moves. -/
theorem Moves.follow {id : JobId} (Holds : Scene Time σ → Standing Time → Prop)
    {operation : Operation} {scene last : Scene Time σ} {before : Standing Time}
    (moves : Moves around operation scene last) (sound : Sound scene.1)
    (stands : scene.1.Stands id before) (holds : Holds scene before)
    (step : ∀ {queue signals next before after} (state : σ),
      Move around operation queue signals next →
      Passage around queue id operation before (signals.filter (·.concerns id)) after →
      Fits id before → Holds (queue, state) before →
      Holds (next, signals.foldl (around.receive next) state) after) :
    Sound last.1 ∧ ∃ after, last.1.Stands id after ∧ Holds last after := by
  apply moves.preserves
    (fun scene => Sound scene.1 ∧ ∃ standing, scene.1.Stands id standing ∧ Holds scene standing)
  · rintro queue signals next state move ⟨sound, before, stands, holds⟩
    obtain ⟨after, passage, card⟩ := move.passes sound stands
    exact ⟨sound.move move, after, ⟨card, passage.fits stands.fits⟩,
      step state move passage stands.fits holds⟩
  · exact ⟨sound, before, stands, holds⟩

theorem Sound.apply {operation : Operation} (quiet : around.Quiet) {scene : Scene Time σ}
    (sound : Sound scene.1) : Sound (operation.apply around scene).1 :=
  (sound.preserves (fun _ => True) quiet (fun _ _ _ _ => trivial) trivial).1

theorem sound_empty (config : QueueConfig) : Sound (empty config : Queue Time) where
  stands _ := ⟨none, rfl, trivial⟩
  unissued _ _ := ⟨rfl, trivial⟩

theorem Sound.apply_config (operation : Operation) (quiet : around.Quiet)
    {scene : Scene Time σ} (sound : Sound scene.1) :
    (operation.apply around scene).1.config = scene.1.config :=
  (sound.preserves (fun last => last.1.config = scene.1.config) quiet
    (fun _ _ move same => move.config.trans same) rfl).2

/-- Jobs stand somewhere after every run, and the configuration stays. -/
theorem Sound.run {uses : List (Use Time σ)} (quiet : ∀ use ∈ uses, use.around.Quiet)
    {scene : Scene Time σ} (sound : Sound scene.1) :
    Sound (run uses scene).1 ∧ (run uses scene).1.config = scene.1.config := by
  apply run_preserves (fun last => Sound last.1 ∧ last.1.config = scene.1.config)
  · intro use member last before
    have same := before.1.apply_config use.operation (quiet use member)
    exact ⟨before.1.apply (quiet use member), same.trans before.2⟩
  · exact ⟨sound, rfl⟩

/-- A run from the start. -/
theorem sound_run (config : QueueConfig) (state : σ) {uses : List (Use Time σ)}
    (quiet : ∀ use ∈ uses, use.around.Quiet) :
    Sound (run uses (empty config, state)).1 ∧
      (run uses (empty config, state)).1.config = config :=
  Sound.run quiet (sound_empty config)

end Run

end Queue

end Orchestra
