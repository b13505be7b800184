import Orchestra.Proofs.Queue.Bookkeeping

/-!
The window of a queue.

Never more jobs run than the queue allows, and while a job waits in line every slot is taken. Each
operation that frees a slot or lengthens the line ends in admission, which goes on until one of the
two is used up. A report of a failed attempt that breaks down frees a slot without it.
-/

namespace Orchestra.Queue

variable {Time σ : Type} {around : Surroundings Time σ} {scene : Scene Time σ}

/-- The number of running jobs is within its limit, and at it while jobs wait in line. -/
structure Window (queue : Queue Time) : Prop where
  ceiling : (queue.running.length : Int) ≤ queue.config.maxConcurrent
  full : queue.stopping = false → queue.pending ≠ [] →
    (queue.running.length : Int) = queue.config.maxConcurrent

/-- Admission has nothing left to do. -/
def Settled (queue : Queue Time) : Prop :=
  queue.stopping ∨ queue.pending = [] ∨ ¬ queue.hasRoom

/-- A queue within its limit keeps its slots in use when admission has nothing left to do. -/
theorem window_iff {queue : Queue Time} :
    Window queue ↔
      (queue.running.length : Int) ≤ queue.config.maxConcurrent ∧ Settled queue := by
  constructor
  · intro window
    refine ⟨window.ceiling, ?_⟩
    cases stopped : queue.stopping with
    | true => exact .inl stopped
    | false =>
        by_cases line : queue.pending = []
        · exact .inr (.inl line)
        · have full := window.full stopped line
          exact .inr (.inr (by simp [hasRoom, full]))
  · rintro ⟨ceiling, settled⟩
    refine ⟨ceiling, fun going line => ?_⟩
    rcases settled with stopped | empty | taken
    · simp [going] at stopped
    · exact (line empty).elim
    · have limit : queue.config.maxConcurrent ≤ queue.running.length := by
        simpa [hasRoom] using taken
      exact Int.le_antisymm ceiling limit

section Ceiling

variable {operation : Operation} {queue next : Queue Time} {signals : List (Signal Time)}

/-- Only a start takes a slot, and it does so where one is free. -/
theorem Move.ceiling (move : Move around operation queue signals next)
    (ceiling : (queue.running.length : Int) ≤ queue.config.maxConcurrent) :
    (next.running.length : Int) ≤ next.config.maxConcurrent := by
  have vacated : ∀ id, (queue.vacate id).running.length ≤ queue.running.length :=
    fun id => List.length_filter_le _ _
  cases move with
  | @started _ _ id _ _ _ line room =>
      have free : (queue.running.length : Int) < queue.config.maxConcurrent := by
        simpa [hasRoom] using room
      have taken : (queue.running.insert id).length ≤ queue.running.length + 1 := by
        rw [List.length_insert]
        split <;> omega
      show ((queue.running.insert id).length : Int) ≤ queue.config.maxConcurrent
      omega
  | released | discarded | succeeded | gaveUp | postponed | undelayable | unminded =>
      exact Int.le_trans (Int.ofNat_le.mpr (vacated _)) ceiling
  | _ => exact ceiling

end Ceiling

section Admission

theorem admitJob_pending (quiet : around.Quiet) (id : JobId) (scene : Scene Time σ) :
    (admitJob around id scene).1.pending = scene.1.pending := by
  unfold admitJob
  split
  · rfl
  · split
    · rfl
    · split
      · simp only [refuse, tell_fst quiet]
        rfl
      · split
        · simp only [refuse, tell_fst quiet]
          rfl
        · simp only [start, tell_fst quiet]
          rfl

/-- Admission of as many jobs as there are in line goes on until there is nothing left to do. -/
theorem admitUpTo_settled (quiet : around.Quiet) {limit : Nat} {scene : Scene Time σ}
    (enough : scene.1.pending.length ≤ limit) : Settled (admitUpTo around limit scene).1 := by
  induction limit generalizing scene with
  | zero => exact .inr (.inl (List.eq_nil_of_length_eq_zero (Nat.le_zero.mp enough)))
  | succ limit ih =>
      unfold admitUpTo
      split
      next empty => exact .inr (.inl empty)
      next id rest line =>
        split
        next full =>
          rcases Bool.or_eq_true_iff.mp full with stopped | taken
          · exact .inl stopped
          · exact .inr (.inr (by simpa using taken))
        next =>
          apply ih
          have shorter : rest.length ≤ limit := by simpa [line] using enough
          rw [admitJob_pending quiet]
          exact shorter

theorem admitAll_settled (quiet : around.Quiet) (scene : Scene Time σ) :
    Settled (admitAll around scene).1 :=
  admitUpTo_settled quiet (Nat.le_refl _)

end Admission

section Operation

variable {id : JobId} {queue next : Queue Time} {state : σ}

/-- A change that takes no job out of its slot and puts none into the line leaves nothing to do. -/
theorem Settled.kept (settled : Settled queue) (config : next.config = queue.config)
    (stopping : next.stopping = queue.stopping) (running : next.running = queue.running)
    (pending : queue.pending = [] → next.pending = []) : Settled next := by
  rcases settled with stopped | empty | taken
  · exact .inl (stopping ▸ stopped)
  · exact .inr (.inl (pending empty))
  · exact .inr (.inr (by simpa only [hasRoom, config, running] using taken))

/-- A job in no slot has none to free. -/
theorem vacate_absent (outside : id ∉ queue.running) : queue.vacate id = queue := by
  have kept : queue.running.filter (· != id) = queue.running :=
    List.filter_eq_self.mpr fun other member => by
      simp only [bne_iff_ne]
      rintro rfl
      exact outside member
  simp only [vacate, kept]

theorem vacate_length (slot : id ∈ queue.running) :
    (queue.vacate id).running.length < queue.running.length :=
  List.length_filter_lt_length_iff_exists.mpr ⟨id, slot, by simp⟩

/-- A report that does not count leaves nothing to do. -/
theorem release_settled (quiet : around.Quiet) (sound : Sound queue) (settled : Settled queue)
    {outcome : Scene Time σ} (released : Release around id queue state (none, outcome)) :
    Settled outcome.1 := by
  cases released with
  | missing => exact settled
  | dropped => exact admitAll_settled quiet _
  | ignored listed kept idle =>
      obtain ⟨standing, stands⟩ := sound.stands id
      show Settled (queue.vacate id)
      rwa [vacate_absent (stands.not_running listed kept idle)]

theorem complete_settled (quiet : around.Quiet) (sound : Sound scene.1)
    (settled : Settled scene.1) (id : JobId) (result : Value) :
    Settled (complete around id result scene).1 := by
  have released := release_spec around id scene.1 scene.2
  unfold complete
  split
  next outcome unaccounted =>
    rw [unaccounted] at released
    exact release_settled quiet sound settled released
  next => exact admitAll_settled quiet _

theorem cancel_settled (quiet : around.Quiet) (settled : Settled scene.1) (id : JobId) :
    Settled (cancel around id scene).2.1 := by
  unfold cancel
  split
  · exact settled
  · split
    · rw [tell_fst quiet]
      exact settled.kept rfl rfl rfl fun empty => empty
    · simp only [tell_fst quiet]
      exact settled.kept rfl rfl rfl fun empty => by simp [Scene.edit, edit, undelay, empty]
    all_goals exact settled

theorem retry_settled (quiet : around.Quiet) (settled : Settled scene.1) (id : JobId) :
    Settled (retry around id scene).2.1 := by
  unfold retry
  split
  · exact settled
  · split
    · exact settled
    · split
      · exact settled
      · exact admitAll_settled quiet _

theorem wake_settled (quiet : around.Quiet) (settled : Settled scene.1) (id : JobId) :
    Settled (wake around id scene).1 := by
  unfold wake
  split
  · dsimp only
    have undelayed : Settled (scene.1.undelay id) := settled.kept rfl rfl rfl fun empty => empty
    split
    · exact undelayed
    · split
      · exact undelayed
      · exact admitAll_settled quiet _
  · exact settled

theorem enqueueValue_settled (quiet : around.Quiet) (settled : Settled scene.1) (name : Value)
    (context : Context) : Settled (enqueueValue around name context scene).2.1 := by
  unfold enqueueValue
  split
  · unfold enqueue
    split
    · exact settled
    · split
      · exact settled
      · split
        · exact settled
        · exact admitAll_settled quiet _
  · split <;> exact settled

theorem register_settled (quiet : around.Quiet) (settled : Settled scene.1)
    (workflow : Definition) : Settled (register around workflow scene).2.1 := by
  unfold register
  split
  · exact settled
  · rw [quiet.hear_eq]
    exact settled.kept rfl rfl rfl fun empty => empty

theorem cleanup_settled (quiet : around.Quiet) (settled : Settled scene.1) (age : Value) :
    Settled (cleanup around age scene).2.1 := by
  have cleaned : ∀ jobs, Settled { scene.1 with jobs } := fun jobs =>
    settled.kept rfl rfl rfl fun empty => empty
  unfold cleanup
  split
  · exact settled
  · split
    · exact settled
    · simp only [dropStale]
      split
      · exact cleaned _
      · rw [quiet _ _ _]
        exact cleaned _

/-- What does not lengthen the line and frees no slot without admission leaves nothing to do. -/
theorem apply_settled (quiet : around.Quiet) (sound : Sound scene.1) (settled : Settled scene.1)
    {operation : Operation} (other : ∀ id error, operation ≠ .fail id error) :
    Settled (operation.apply around scene).1 := by
  cases operation with
  | register workflow => exact register_settled quiet settled workflow
  | registerValue data =>
      show Settled (registerValue around data scene).2.1
      unfold registerValue
      split
      · split
        · exact register_settled quiet settled _
        · exact settled
      · exact settled
  | unregister name =>
      show Settled (unregister around name scene).2.1
      unfold unregister
      split
      · exact settled
      · rw [quiet.hear_eq]
        exact settled.kept rfl rfl rfl fun empty => empty
  | enqueue name context => exact enqueueValue_settled quiet settled name context
  | cancel id => exact cancel_settled quiet settled id
  | retry id => exact retry_settled quiet settled id
  | complete id result => exact complete_settled quiet sound settled id result
  | fail id error => exact (other id error rfl).elim
  | wake id => exact wake_settled quiet settled id
  | cleanup age => exact cleanup_settled quiet settled age
  | stop => exact .inl rfl

/-- A report of a failed attempt that does not break down leaves nothing to do. -/
theorem fail_settled (quiet : around.Quiet) (sound : Sound scene.1) (settled : Settled scene.1)
    {id : JobId} {error : Option String} (fine : ¬ (Operation.fail id error).BreaksDown around scene) :
    Settled (fail around id error scene).2.1 := by
  obtain ⟨queue, state⟩ := scene
  have setback := fail_spec around id error queue state
  change ¬ ∃ failure, (fail around id error (queue, state)).1 = .error failure at fine
  generalize fail around id error (queue, state) = result at setback fine
  cases setback with
  | dismissed released => exact release_settled quiet sound settled released
  | gaveUp | postponed => exact admitAll_settled quiet _
  | undelayable | unminded => exact (fine ⟨_, rfl⟩).elim

theorem moves_ceiling {operation : Operation} {last : Scene Time σ}
    (moves : Moves around operation scene last)
    (ceiling : (scene.1.running.length : Int) ≤ scene.1.config.maxConcurrent) :
    (last.1.running.length : Int) ≤ last.1.config.maxConcurrent :=
  moves.preserves (fun scene => (scene.1.running.length : Int) ≤ scene.1.config.maxConcurrent)
    (fun _ move within => move.ceiling within) ceiling

/-- A report of a failed attempt leaves nothing to do, unless it breaks down while jobs wait. -/
theorem fail_window_iff (quiet : around.Quiet) (sound : Sound scene.1) (window : Window scene.1)
    (id : JobId) (error : Option String) :
    Window (fail around id error scene).2.1 ↔
      ¬ ((Operation.fail id error).BreaksDown around scene ∧ scene.1.stopping = false ∧
        scene.1.pending ≠ []) := by
  obtain ⟨queue, state⟩ := scene
  have ceiling := moves_ceiling (fail_moves quiet id error (queue, state)) window.ceiling
  have setback := fail_spec around id error queue state
  change _ ↔ ¬ ((∃ failure, (fail around id error (queue, state)).1 = .error failure) ∧ _)
  generalize fail around id error (queue, state) = result at setback ceiling
  cases setback with
  | dismissed released =>
      have settled := release_settled quiet sound (window_iff.mp window).2 released
      exact iff_of_true (window_iff.mpr ⟨ceiling, settled⟩) (by simp)
  | gaveUp | postponed =>
      exact iff_of_true (window_iff.mpr ⟨ceiling, admitAll_settled quiet _⟩) (by simp)
  | undelayable _ _ slot | unminded _ _ slot =>
      have fewer : ((queue.vacate id).running.length : Int) < queue.config.maxConcurrent :=
        Int.lt_of_lt_of_le (Int.ofNat_lt.mpr (vacate_length slot)) window.ceiling
      constructor
      · rintro idle ⟨-, going, line⟩
        exact Int.lt_irrefl _ (Int.lt_of_lt_of_le fewer (Int.le_of_eq (idle.full going line).symm))
      · intro harmless
        exact ⟨ceiling, fun going line => (harmless ⟨⟨_, rfl⟩, going, line⟩).elim⟩

/-- Every operation keeps the window, except for a report that breaks down while jobs wait. -/
theorem apply_window_iff (quiet : around.Quiet) (sound : Sound scene.1) (window : Window scene.1)
    (operation : Operation) :
    Window (operation.apply around scene).1 ↔
      ¬ (operation.BreaksDown around scene ∧ scene.1.stopping = false ∧
        scene.1.pending ≠ []) := by
  have ceiling := moves_ceiling (Operation.moves quiet operation sound.fresh) window.ceiling
  cases operation with
  | fail id error => exact fail_window_iff quiet sound window id error
  | _ =>
      refine iff_of_true (window_iff.mpr ⟨ceiling, ?_⟩) fun wrong => wrong.1
      exact apply_settled quiet sound (window_iff.mp window).2 (by simp)

theorem run_ceiling {config : QueueConfig} (limit : 0 ≤ config.maxConcurrent) (state : σ)
    {uses : List (Use Time σ)} (quiet : ∀ use ∈ uses, use.around.Quiet) :
    ((run uses (empty config, state)).1.running.length : Int) ≤ config.maxConcurrent := by
  have kept : Sound (run uses (empty config, state)).1 ∧
      ((run uses (empty config, state)).1.running.length : Int) ≤
        (run uses (empty config, state)).1.config.maxConcurrent := by
    apply run_preserves fun scene : Scene Time σ =>
      Sound scene.1 ∧ (scene.1.running.length : Int) ≤ scene.1.config.maxConcurrent
    · intro use member scene before
      have moves := Operation.moves (quiet use member) use.operation before.1.fresh
      exact ⟨before.1.apply (quiet use member), moves_ceiling moves before.2⟩
    · exact ⟨sound_empty config, limit⟩
  rw [(sound_run config state quiet).2] at kept
  exact kept.2

end Operation

/-- At no time do more jobs run than the limit of a queue. In every state between operations all
slots are taken while a job waits in line and the queue was not stopped, exactly as long as no
report of a failed attempt breaks down while a job waits; and a report does so exactly when its job
is to be started again, but the strategy has no delay, or no event loop runs, or the clock cannot
count as far as the delay. -/
theorem window_iff_no_breakdown (config : QueueConfig) (limit : 0 ≤ config.maxConcurrent)
    (state : σ) (uses : List (Use Time σ)) (quiet : ∀ use ∈ uses, use.around.Quiet) :
    (((run uses (empty config, state)).1.running.length : Int) ≤ config.maxConcurrent) ∧
    ((∀ past, past <+: uses → Window (run past (empty config, state)).1) ↔
      ∀ past use, past ++ [use] <+: uses →
        ¬ (use.operation.BreaksDown use.around (run past (empty config, state)) ∧
          (run past (empty config, state)).1.stopping = false ∧
          (run past (empty config, state)).1.pending ≠ [])) ∧
    ∀ past use, past ++ [use] <+: uses →
      (use.operation.BreaksDown use.around (run past (empty config, state)) ↔
        ∃ id error job, use.operation = .fail id error ∧
          (run past (empty config, state)).1.job? id = some job ∧
          job.status = .running ∧ id ∈ (run past (empty config, state)).1.running ∧
          job.attempts < (run past (empty config, state)).1.budget job.workflow ∧
          ((run past (empty config, state)).1.workflow? job.workflow).isSome ∧
          Undelayable use.around config job.attempts) := by
  refine ⟨?_, ?_, ?_⟩
  · exact run_ceiling limit state quiet
  · refine run_prefixes_iff (fun scene => Sound scene.1) (fun scene => Window scene.1)
      (fun use scene => use.operation.BreaksDown use.around scene ∧ scene.1.stopping = false ∧
        scene.1.pending ≠ []) ?_ ?_ ?_ ?_
    · intro use member scene sound
      exact sound.apply (quiet use member)
    · intro use member scene sound window
      exact apply_window_iff (quiet use member) sound window use.operation
    · exact sound_empty config
    · exact ⟨limit, fun _ line => (line rfl).elim⟩
  · intro past use begins
    apply run_breaksDown_iff
    intro use member
    exact quiet use (begins.subset (List.mem_append_left _ member))

theorem not_window_overlong : ¬ Window (run overlongUses (empty overlongConfig, ())).1 := by
  intro window
  have idle : (run overlongUses (empty overlongConfig, ())).1.stopping = false ∧
      (run overlongUses (empty overlongConfig, ())).1.pending = [1] ∧
      (run overlongUses (empty overlongConfig, ())).1.running = [] ∧
      (run overlongUses (empty overlongConfig, ())).1.config.maxConcurrent = 1 := by
    decide +kernel
  obtain ⟨going, line, free, limit⟩ := idle
  have full := window.full going (by simp [line])
  simp [free, limit] at full

/-- After a delay that the strategy gives, and that the clock cannot count, a slot is idle while a
job waits. -/
theorem overlong_delay_idles_slot :
    0 ≤ overlongConfig.maxConcurrent ∧
      (∀ attempts, retryDelay overlongConfig attempts = .ok (.int overlong)) ∧
      (∀ use ∈ overlongUses, use.around.Quiet ∧ use.around.clock.isSome) ∧
      ¬ ∀ past, past <+: overlongUses → Window (run past (empty overlongConfig, ())).1 := by
  refine ⟨by decide, retryDelay_fixed rfl, fun use member => ?_, fun kept => ?_⟩
  · exact ⟨overlongUses_quiet use member, overlongUses_timed use member⟩
  · exact not_window_overlong (kept overlongUses List.prefix_rfl)

/-- The report whose delay is beyond the clock breaks down while another job waits. -/
theorem overlong_delay_breaks_down_waiting :
    0 ≤ overlongConfig.maxConcurrent ∧ (∀ use ∈ overlongUses, use.around.Quiet) ∧
      ∃ past use, past ++ [use] <+: overlongUses ∧
        use.operation.BreaksDown use.around (run past (empty overlongConfig, ())) ∧
        (run past (empty overlongConfig, ())).1.stopping = false ∧
        (run past (empty overlongConfig, ())).1.pending ≠ [] := by
  have limit : 0 ≤ overlongConfig.maxConcurrent := by decide
  refine ⟨limit, overlongUses_quiet, Classical.byContradiction fun none => ?_⟩
  have exact_condition := window_iff_no_breakdown overlongConfig limit () overlongUses
    overlongUses_quiet
  refine not_window_overlong (exact_condition.2.1.mpr ?_ overlongUses List.prefix_rfl)
  intro past use begins breaks
  exact none ⟨past, use, begins, breaks⟩

end Orchestra.Queue
