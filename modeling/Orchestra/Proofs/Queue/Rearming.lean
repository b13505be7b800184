import Orchestra.Proofs.Queue.Closing
import Orchestra.Proofs.Queue.Lifecycle

/-!
Delays after a queue was stopped.

A stop forgets all delays. An attempt that fails later is put off all the same when its job may be
started again, and its delay passes like any other. Nothing else arms a delay, so that none is armed
exactly as long as no such attempt fails.
-/

namespace Orchestra.Queue

variable {Time σ : Type}

/-- The operation reports that an attempt failed, and the job is to wait for a delay. -/
def Operation.Postpones (around : Surroundings Time σ) (queue : Queue Time) : Operation → Prop
  | .fail id _ => ∃ job, queue.job? id = some job ∧ job.status = .running ∧ id ∈ queue.running ∧
      job.attempts < queue.budget job.workflow ∧ (queue.workflow? job.workflow).isSome ∧
      ¬ Undelayable around queue.config job.attempts
  | _ => False

/-- No delay is armed, and none was told to be over since a listener had written down so much. -/
structure WithoutDelays (earlier : List (Told Time)) (scene : Scene Time (List (Told Time))) :
    Prop where
  unarmed : scene.1.delayed = []
  unheard : ∃ later, scene.2 = earlier ++ later ∧ ∀ told ∈ later, told.event.topic ≠ .readmitted

theorem admitAll_of_stopping (around : Surroundings Time σ) {scene : Scene Time σ}
    (stopping : scene.1.stopping = true) : admitAll around scene = scene := by
  unfold admitAll
  cases line : scene.1.pending with
  | nil => rfl
  | cons id rest => simp [admitUpTo, line, stopping]

section Step

variable {around : Surroundings Time σ} {operation : Operation} {queue next : Queue Time}
  {signals : List (Signal Time)} {earlier log : List (Told Time)}

/-- Only the report of a failed attempt arms a delay. -/
theorem Move.unarmed (move : Move around operation queue signals next)
    (other : ∀ id error, operation ≠ .fail id error) (unarmed : queue.delayed = []) :
    next.delayed = [] := by
  cases move with
  | gaveUp | postponed | undelayable | unminded => exact (other _ _ rfl).elim
  | readmitted armed => simp [unarmed] at armed
  | cancelledWaiting => simp [undelay, edit, unarmed]
  | forgotten => simp [undelay, unarmed]
  | stopped => rfl
  | _ => exact unarmed

/-- Only an armed delay is over. -/
theorem Move.not_readmitted (move : Move around operation queue signals next)
    (unarmed : queue.delayed = []) (job : Job) : .told (.readmitted job) ∉ signals := by
  cases move with
  | readmitted armed => simp [unarmed] at armed
  | started => split <;> simp
  | cleaned cutoff signals told =>
      intro sent
      obtain ⟨count, same⟩ := told _ sent
      cases same
  | _ => simp

theorem WithoutDelays.append (before : WithoutDelays earlier (queue, log))
    (unarmed : next.delayed = []) {more : List (Told Time)}
    (unheard : ∀ told ∈ more, told.event.topic ≠ .readmitted) :
    WithoutDelays earlier (next, log ++ more) := by
  obtain ⟨later, split, silent⟩ := before.unheard
  have split : log = earlier ++ later := split
  refine ⟨unarmed, later ++ more, by rw [split, List.append_assoc], fun told member => ?_⟩
  rcases List.mem_append.mp member with member | member
  · exact silent told member
  · exact unheard told member

theorem not_readmitted_of_noted {timed : Bool} (silent : ∀ job, .told (.readmitted job) ∉ signals) :
    ∀ told ∈ signals.flatMap (noted timed queue), told.event.topic ≠ .readmitted := by
  intro told member
  obtain ⟨signal, sent, member⟩ := List.mem_flatMap.mp member
  cases signal with
  | told event =>
      cases List.mem_singleton.mp member
      cases event with
      | readmitted job => exact (silent job sent).elim
      | _ => nofun
  | launched | minded => cases member

theorem WithoutDelays.move (before : WithoutDelays earlier (queue, log))
    (move : Move around.watched operation queue signals next)
    (other : ∀ id error, operation ≠ .fail id error) :
    WithoutDelays earlier (next, signals.foldl (around.watched.receive next) log) := by
  rw [watched_foldl]
  exact before.append (move.unarmed other before.unarmed)
    (not_readmitted_of_noted (move.not_readmitted before.unarmed))

theorem WithoutDelays.moves {scene last : Scene Time (List (Told Time))}
    (before : WithoutDelays earlier scene) (moves : Moves around.watched operation scene last)
    (other : ∀ id error, operation ≠ .fail id error) : WithoutDelays earlier last :=
  moves.preserves (WithoutDelays earlier) (fun _ move before => before.move move other) before

theorem WithoutDelays.tell {scene : Scene Time (List (Told Time))}
    (before : WithoutDelays earlier scene) (event : Job → Event) (id : JobId)
    (other : ∀ job, (event job).topic ≠ .readmitted) :
    WithoutDelays earlier (scene.tell around.watched event id) := by
  unfold Scene.tell
  split
  next job _ =>
    refine before.append before.unarmed fun told member => ?_
    cases List.mem_singleton.mp member
    exact other job
  · exact before

theorem postpones_iff {id : JobId} {error : Option String} {job : Job}
    (listed : queue.job? id = some job) (running : job.status = .running)
    (slot : id ∈ queue.running) :
    (Operation.fail id error).Postpones around queue ↔
      job.attempts < queue.budget job.workflow ∧ (queue.workflow? job.workflow).isSome ∧
        ¬ Undelayable around queue.config job.attempts := by
  simp [Operation.Postpones, listed, running, slot]

/-- After a stop the report of a failed attempt arms a delay exactly if it is to postpone its job; no
job is admitted then. -/
theorem fail_withoutDelays_iff (stopping : queue.stopping = true)
    (before : WithoutDelays earlier (queue, log)) (id : JobId) (error : Option String) :
    WithoutDelays earlier (fail around.watched id error (queue, log)).2 ↔
      ¬ (Operation.fail id error).Postpones around.watched queue := by
  have setback := fail_spec around.watched id error queue log
  generalize fail around.watched id error (queue, log) = result at setback
  cases setback with
  | dismissed released =>
      have reports : Operation.Reports id (.complete id .null) := rfl
      have moves := release_moves around.watched_quiet id reports released
      refine iff_of_true (before.moves moves nofun) ?_
      rintro ⟨job, listed, running, slot, -⟩
      exact Release.not_none listed running slot released
  | @gaveUp job listed running slot spent =>
      rw [admitAll_of_stopping _ (by rw [tell_fst around.watched_quiet]; exact stopping)]
      refine iff_of_true ?_ fun postpones => ?_
      · have ended : WithoutDelays earlier
            (((queue.vacate id).edit id (noteError error)).edit id (·.giveUp around.watched.stamp),
              log) := ⟨before.unarmed, before.unheard⟩
        exact ended.tell .failed id (by simp [Event.topic])
      · obtain ⟨left, known, -⟩ := (postpones_iff listed running slot).mp postpones
        exact spent ⟨left, known⟩
  | @postponed job seconds now due listed running slot left known delay timed counted =>
      rw [admitAll_of_stopping _ stopping]
      refine iff_of_false (fun kept => ?_) (not_not_intro ?_)
      · simpa using kept.unarmed
      · refine (postpones_iff listed running slot).mpr ⟨left, known, ?_⟩
        simp [Undelayable, delay, timed, counted]
  | undelayable listed running slot left known fault =>
      refine iff_of_true ⟨before.unarmed, before.unheard⟩ fun postpones => ?_
      exact ((postpones_iff listed running slot).mp postpones).2.2 (.inl ⟨_, fault⟩)
  | unminded listed running slot left known delay fault =>
      refine iff_of_true ⟨before.unarmed, before.unheard⟩ fun postpones => ?_
      exact ((postpones_iff listed running slot).mp postpones).2.2 (.of_fault delay fault)

theorem apply_withoutDelays_iff {scene : Scene Time (List (Told Time))} (sound : Sound scene.1)
    (stopping : scene.1.stopping = true) (before : WithoutDelays earlier scene) :
    WithoutDelays earlier (operation.apply around.watched scene) ↔
      ¬ operation.Postpones around.watched scene.1 := by
  cases operation with
  | fail id error => exact fail_withoutDelays_iff stopping before id error
  | _ =>
      refine iff_of_true ?_ not_false
      exact before.moves (Operation.moves around.watched_quiet _ sound.fresh) nofun

theorem Moves.stopping {scene last : Scene Time σ} (moves : Moves around operation scene last)
    (stopping : scene.1.stopping = true) : last.1.stopping = true :=
  moves.preserves (fun scene => scene.1.stopping = true)
    (fun _ move stopping => (move.runsDown stopping).stopping) stopping

end Step

/-- One more use of a queue that a listener watches. -/
def watchOne (scene : Scene Time (List (Told Time))) (use : Use Time σ) :
    Scene Time (List (Told Time)) :=
  use.operation.apply use.around.watched scene

theorem watch_foldl (config : QueueConfig) (first second : List (Use Time σ)) :
    watch config (first ++ second) =
      second.foldl watchOne (watch config first) := by
  rw [watch_append, run, List.foldl_map]
  rfl

/-- Once a queue was stopped, no delay is armed any more and none is told to be over, exactly as long
as no attempt fails whose job may be started again: one with attempts left, of a workflow that is
known, and with a delay that can be found and counted. -/
theorem no_delays_iff_none_postponed (config : QueueConfig) (past : List (Use Time σ))
    (around : Surroundings Time σ) (rest : List (Use Time σ)) :
    (∀ since, since <+: rest →
      WithoutDelays (watch config (past ++ [⟨around, .stop⟩])).2
        (watch config (past ++ [⟨around, .stop⟩] ++ since))) ↔
    ∀ since use, since ++ [use] <+: rest →
      ¬ use.operation.Postpones use.around (watch config (past ++ [⟨around, .stop⟩] ++ since)).1 := by
  simp only [watch_foldl config (past ++ [⟨around, .stop⟩])]
  have stopped : (watch config (past ++ [⟨around, .stop⟩])).1 = (watch config past).1.stop := by
    rw [watch_append]
    rfl
  refine foldl_prefixes_iff watchOne (fun scene => Sound scene.1 ∧ scene.1.stopping = true)
    (WithoutDelays (watch config (past ++ [⟨around, .stop⟩])).2)
    (fun use scene => use.operation.Postpones use.around scene.1) ?_ ?_ ⟨?_, ?_⟩ ⟨?_, [], ?_⟩
  · intro use _ scene ⟨sound, stopping⟩
    have moves := Operation.moves use.around.watched_quiet use.operation sound.fresh
    exact ⟨sound.apply use.around.watched_quiet, moves.stopping stopping⟩
  · intro use _ scene ⟨sound, stopping⟩ before
    exact apply_withoutDelays_iff sound stopping before
  · exact watch_sound config _
  · rw [stopped]
    rfl
  · rw [stopped]
    rfl
  · simp

/-- One job runs. -/
def startedUses : List (Use Nat Unit) :=
  [Operation.register { name := "wf", retries := some 3 }, .enqueue (.str "wf") {}].map
    (⟨counting, ·⟩)

/-- The attempt fails, and a second later the delay is over. -/
def lateUses : List (Use Nat Unit) :=
  [Operation.fail 0 (some "boom"), .wake 0].map (⟨counting, ·⟩)

theorem lateUses_arm :
    (watch hurriedConfig (startedUses ++ [⟨counting, .stop⟩] ++ lateUses.take 1)).1.delayed =
      [(0, 1)] := by
  decide +kernel

theorem lateUses_not_withoutDelays :
    ¬ ∀ since, since <+: lateUses →
      WithoutDelays (watch hurriedConfig (startedUses ++ [⟨counting, .stop⟩])).2
        (watch hurriedConfig (startedUses ++ [⟨counting, .stop⟩] ++ since)) := by
  intro never
  have unarmed := (never (lateUses.take 1) (List.take_prefix 1 lateUses)).unarmed
  rw [lateUses_arm] at unarmed
  cases unarmed

/-- An attempt that fails after the stop arms a delay, and this is told to be over. -/
theorem late_failure_arms_delay :
    (watch hurriedConfig (startedUses ++ [⟨counting, .stop⟩] ++ lateUses.take 1)).1.delayed =
        [(0, 1)] ∧
      (watch hurriedConfig (startedUses ++ [⟨counting, .stop⟩] ++ lateUses)).2.map
          (fun told => told.event.topic) =
        [.registered, .enqueued, .started, .execute, .readmitted] ∧
      ¬ ∀ since, since <+: lateUses →
        WithoutDelays (watch hurriedConfig (startedUses ++ [⟨counting, .stop⟩])).2
          (watch hurriedConfig (startedUses ++ [⟨counting, .stop⟩] ++ since)) :=
  ⟨lateUses_arm, by decide +kernel, lateUses_not_withoutDelays⟩

/-- The report that arms the delay is one that postpones its job. -/
theorem late_failure_postpones :
    ∃ since use, since ++ [use] <+: lateUses ∧
      use.operation.Postpones use.around
        (watch hurriedConfig (startedUses ++ [⟨counting, .stop⟩] ++ since)).1 := by
  have exactly := no_delays_iff_none_postponed hurriedConfig startedUses counting lateUses
  by_contra none
  exact lateUses_not_withoutDelays (exactly.mpr fun since use begins postpones =>
    none ⟨since, use, begins, postpones⟩)

end Orchestra.Queue
