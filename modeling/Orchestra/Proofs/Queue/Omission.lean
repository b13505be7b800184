import Orchestra.Proofs.Queue.Agreement
import Orchestra.Proofs.Queue.Window

/-!
A queue without the records of some jobs.

An operation on another job does the same whether these records are there or not, as long as none of
the jobs waits in line: the records change alike, and the same signals are sent.
-/

namespace Orchestra

variable {Time σ : Type}

/-- The same surroundings with a listener that writes down all signals, and is not told of
cleanups. -/
def Surroundings.taped (around : Surroundings Time σ) : Surroundings Time (List (Signal Time)) where
  stamp := around.stamp
  clock := around.clock
  after := around.after
  runsJobs := around.runsJobs
  hear event scene :=
    if event.topic = .cleaned then scene else (scene.1, scene.2 ++ [.told event])
  launch id workflow tape := tape ++ [.launched id workflow]
  mind id due tape := tape ++ [.minded id due]

theorem Surroundings.taped_quiet (around : Surroundings Time σ) : around.taped.Quiet := by
  intro event queue tape
  simp only [Surroundings.taped]
  split <;> rfl

theorem Surroundings.taped_agrees {around : Surroundings Time σ} (quiet : around.Quiet) :
    around.Agrees around.taped :=
  ⟨rfl, rfl, rfl, rfl, quiet, around.taped_quiet⟩

namespace Queue

/-- A use of a queue that is written down. -/
def Use.taped (use : Use Time σ) : Use Time (List (Signal Time)) :=
  ⟨use.around.taped, use.operation⟩

/-- A queue and the tape of its listener after a number of operations. -/
def record (config : QueueConfig) (uses : List (Use Time σ)) : Scene Time (List (Signal Time)) :=
  run (uses.map Use.taped) (empty config, [])

theorem taped_quiet (uses : List (Use Time σ)) :
    ∀ use ∈ uses.map Use.taped, use.around.Quiet := by
  intro use member
  obtain ⟨use, -, rfl⟩ := List.mem_map.mp member
  exact use.around.taped_quiet

theorem record_sound (config : QueueConfig) (uses : List (Use Time σ)) :
    Sound (record config uses).1 :=
  (sound_run config [] (taped_quiet uses)).1

/-- The queue is the same with any listeners that leave it alone. -/
theorem run_eq_record (config : QueueConfig) {uses : List (Use Time σ)} (state : σ)
    (quiet : ∀ use ∈ uses, use.around.Quiet) :
    (run uses (empty config, state)).1 = (record config uses).1 :=
  run_agrees Use.taped (fun use member => Surroundings.taped_agrees (quiet use member))
    (fun _ _ => rfl) rfl

/-- The queue without the records of some jobs. -/
def without (gone : List JobId) (queue : Queue Time) : Queue Time :=
  { queue with jobs := queue.jobs.filter fun job => job.id ∉ gone }

/-- The job that an operation is about. -/
def Operation.job? : Operation → Option JobId
  | .cancel id | .retry id | .complete id _ | .fail id _ | .wake id => some id
  | .register _ | .registerValue _ | .unregister _ | .enqueue .. | .cleanup _ | .stop => none

/-- None of the jobs waits in line. -/
def Spares (gone : List JobId) (queue : Queue Time) : Prop :=
  ∀ id ∈ queue.pending, id ∉ gone

theorem Spares.append {gone : List JobId} {queue : Queue Time} {id : JobId}
    (spares : Spares gone queue) (spared : id ∉ gone) : Spares gone (queue.append id) := by
  intro other member
  rcases List.mem_append.mp member with old | new
  · exact spares other old
  · rwa [List.mem_singleton.mp new]

section Without

variable {gone : List JobId} {queue : Queue Time} {id : JobId}

theorem job?_without (spared : id ∉ gone) : (queue.without gone).job? id = queue.job? id := by
  simp only [job?, without, List.find?_filter]
  congr 1
  funext job
  by_cases own : job.id = id <;> simp [own, spared]

theorem job?_without_gone (member : id ∈ gone) : (queue.without gone).job? id = none := by
  simp only [job?, without, List.find?_eq_none, List.mem_filter]
  rintro job ⟨-, spared⟩ own
  have own : job.id = id := by simpa using own
  simp [own, member] at spared

/-- A change of the queue that does not depend on the records that are left out. -/
def Overlooks (gone : List JobId) (change : Queue Time → Queue Time) : Prop :=
  ∀ queue, (change queue).without gone = change (queue.without gone)

theorem edit_overlooks (change : Job → Job) (keeps : KeepsId change) :
    Overlooks gone (edit id change : Queue Time → Queue Time) := by
  have same : ∀ job : Job, (if job.id == id then change job else job).id = job.id := by
    intro job
    split
    · exact keeps job
    · rfl
  intro queue
  simp only [without, edit, List.filter_map, Function.comp_def, same]

theorem Overlooks.comp {first second : Queue Time → Queue Time} (after : Overlooks gone second)
    (before : Overlooks gone first) : Overlooks gone (second ∘ first) :=
  fun queue => (after (first queue)).trans (congrArg second (before queue))

theorem Overlooks.scene {change : Queue Time → Queue Time} (overlooks : Overlooks gone change)
    (scene : Scene Time σ) :
    (scene.edit (without gone)).edit change = (scene.edit change).edit (without gone) :=
  Prod.ext (overlooks scene.1).symm rfl

theorem without_nil : queue.without [] = queue := by
  have all : queue.jobs.filter (fun job => job.id ∉ []) = queue.jobs := by simp
  simp only [without, all]

end Without

section Admission

variable {around : Surroundings Time σ} {gone : List JobId} {id : JobId}

theorem hear_without (event : Event) (scene : Scene Time (List (Signal Time))) :
    around.taped.hear event (scene.edit (without gone)) =
      Scene.edit (without gone) (around.taped.hear event scene) := by
  simp only [Surroundings.taped]
  split <;> rfl

theorem tell_without (spared : id ∉ gone) (event : Job → Event)
    (scene : Scene Time (List (Signal Time))) :
    Scene.tell around.taped event id (scene.edit (without gone)) =
      (Scene.tell around.taped event id scene).edit (without gone) := by
  have listed : (scene.edit (without gone)).1.job? id = scene.1.job? id := job?_without spared
  unfold Scene.tell
  rw [listed]
  split
  · exact hear_without _ scene
  · rfl

/-- The listener is told of a change that overlooks the jobs. -/
theorem hear_edit_without (around : Surroundings Time σ) {change : Queue Time → Queue Time}
    (overlooks : Overlooks gone change) (event : Event) (scene : Scene Time (List (Signal Time))) :
    around.taped.hear event ((scene.edit (without gone)).edit change) =
      Scene.edit (without gone) (around.taped.hear event (scene.edit change)) := by
  rw [overlooks.scene, hear_without]

theorem tell_edit_without (spared : id ∉ gone) {change : Queue Time → Queue Time}
    (overlooks : Overlooks gone change) (event : Job → Event)
    (scene : Scene Time (List (Signal Time))) :
    Scene.tell around.taped event id ((scene.edit (without gone)).edit change) =
      Scene.edit (without gone) (Scene.tell around.taped event id (scene.edit change)) := by
  rw [overlooks.scene, tell_without spared]

theorem refuse_without (spared : id ∉ gone) (error : String)
    (scene : Scene Time (List (Signal Time))) :
    refuse around.taped id error (scene.edit (without gone)) =
      (refuse around.taped id error scene).edit (without gone) := by
  refine tell_edit_without spared ?_ _ scene
  exact edit_overlooks _ fun _ => rfl

theorem start_without (spared : id ∉ gone) (workflow : Definition)
    (scene : Scene Time (List (Signal Time))) :
    start around.taped id workflow (scene.edit (without gone)) =
      (start around.taped id workflow scene).edit (without gone) := by
  have started : Overlooks gone fun queue : Queue Time =>
      (queue.edit id (·.start around.taped.stamp)).occupy id := by
    have occupied : Overlooks gone (occupy id : Queue Time → Queue Time) := fun _ => rfl
    exact occupied.comp (edit_overlooks _ fun _ => rfl)
  unfold start
  rw [← tell_without spared, ← tell_edit_without spared started]
  rfl

theorem admitJob_without (spared : id ∉ gone) (scene : Scene Time (List (Signal Time))) :
    admitJob around.taped id (scene.edit (without gone)) =
      (admitJob around.taped id scene).edit (without gone) := by
  have listed : (scene.edit (without gone)).1.job? id = scene.1.job? id := job?_without spared
  have known : ∀ name, (scene.edit (without gone)).1.workflow? name = scene.1.workflow? name :=
    fun _ => rfl
  unfold admitJob
  simp only [listed, known]
  split
  · rfl
  · split
    · rfl
    · split
      · exact refuse_without spared _ scene
      · split
        · exact refuse_without spared _ scene
        · exact start_without spared _ scene

theorem admitUpTo_without (limit : Nat) {scene : Scene Time (List (Signal Time))}
    (spares : Spares gone scene.1) :
    admitUpTo around.taped limit (scene.edit (without gone)) =
      (admitUpTo around.taped limit scene).edit (without gone) := by
  induction limit generalizing scene with
  | zero => rfl
  | succ limit ih =>
      have line : (scene.edit (without gone)).1.pending = scene.1.pending := rfl
      have closed : ((scene.edit (without gone)).1.stopping ||
          !(scene.edit (without gone)).1.hasRoom) = (scene.1.stopping || !scene.1.hasRoom) := rfl
      unfold admitUpTo
      rw [line, closed]
      split
      next => rfl
      next id rest first =>
        rw [Spares, first] at spares
        split
        next => rfl
        next =>
          rw [← ih]
          · rw [← admitJob_without (spares id List.mem_cons_self)]
            rfl
          · rw [Spares, admitJob_pending around.taped_quiet]
            exact fun other member => spares other (List.mem_cons_of_mem _ member)

theorem admitAll_without {scene : Scene Time (List (Signal Time))}
    (spares : Spares gone scene.1) :
    admitAll around.taped (scene.edit (without gone)) =
      (admitAll around.taped scene).edit (without gone) :=
  admitUpTo_without _ spares

/-- What most operations do: a change, word of it, and an admission. -/
theorem admitAll_tell_without (spared : id ∉ gone) {change : Queue Time → Queue Time}
    (overlooks : Overlooks gone change) (event : Job → Event)
    {scene : Scene Time (List (Signal Time))} (spares : Spares gone (change scene.1)) :
    admitAll around.taped
        (Scene.tell around.taped event id ((scene.edit (without gone)).edit change)) =
      Scene.edit (without gone)
        (admitAll around.taped (Scene.tell around.taped event id (scene.edit change))) := by
  rw [tell_edit_without spared overlooks]
  apply admitAll_without
  rwa [tell_fst around.taped_quiet]

end Admission

section Outcome

variable {around : Surroundings Time σ} {gone : List JobId} {id : JobId}

theorem release_without (spared : id ∉ gone) {scene : Scene Time (List (Signal Time))}
    (spares : Spares gone scene.1) :
    release around.taped id (scene.edit (without gone)) =
      ((release around.taped id scene).1,
        Scene.edit (without gone) (release around.taped id scene).2) := by
  have listed : (scene.edit (without gone)).1.job? id = scene.1.job? id := job?_without spared
  have vacated : Overlooks gone (vacate id : Queue Time → Queue Time) := fun _ => rfl
  have ended : Overlooks gone fun queue : Queue Time =>
      queue.edit id (noteEnd around.taped.stamp) := edit_overlooks _ fun _ => rfl
  have slot : (scene.edit (without gone)).1.running = scene.1.running := rfl
  unfold release
  simp only [listed, slot]
  split
  · rfl
  · split
    · have admitted : admitAll around.taped (((scene.edit (without gone)).edit (vacate id)).edit
          (edit id (noteEnd around.taped.stamp))) =
          Scene.edit (without gone) (admitAll around.taped ((scene.edit (vacate id)).edit
            (edit id (noteEnd around.taped.stamp)))) := by
        rw [vacated.scene, ended.scene]
        exact admitAll_without spares
      exact congrArg (Prod.mk none) admitted
    · rw [vacated.scene]
      split <;> rfl

theorem complete_without (spared : id ∉ gone) (result : Value)
    {scene : Scene Time (List (Signal Time))} (spares : Spares gone scene.1) :
    complete around.taped id result (scene.edit (without gone)) =
      (complete around.taped id result scene).edit (without gone) := by
  have succeeded : Overlooks gone fun queue : Queue Time =>
      queue.edit id (·.succeed result around.taped.stamp) := edit_overlooks _ fun _ => rfl
  unfold complete
  rw [release_without spared spares]
  obtain ⟨queue, tape⟩ := scene
  have released := release_spec around.taped id queue tape
  generalize release around.taped id (queue, tape) = outcome at released
  cases released with
  | missing | dropped | ignored => rfl
  | counted =>
      exact admitAll_tell_without spared succeeded _ spares

theorem delay_without {job : Job} (scene : Scene Time (List (Signal Time))) :
    delay around.taped job (scene.edit (without gone)) =
      ((delay around.taped job scene).1,
        Scene.edit (without gone) (delay around.taped job scene).2) := by
  have waits : Overlooks gone (edit job.id putOff : Queue Time → Queue Time) :=
    edit_overlooks _ fun _ => rfl
  have config : (scene.edit (without gone)).1.config = scene.1.config := rfl
  have waiting := waits.scene scene
  unfold putOff at waiting
  unfold delay
  rw [config]
  split
  · rfl
  · rw [waiting]
    split
    · rfl
    · split <;> rfl

theorem fail_without (spared : id ∉ gone) (error : Option String)
    {scene : Scene Time (List (Signal Time))} (spares : Spares gone scene.1) :
    fail around.taped id error (scene.edit (without gone)) =
      ((fail around.taped id error scene).1,
        Scene.edit (without gone) (fail around.taped id error scene).2) := by
  have noted : Overlooks gone (edit id (noteError error) : Queue Time → Queue Time) :=
    edit_overlooks _ fun _ => rfl
  have ended : Overlooks gone fun queue : Queue Time =>
      queue.edit id (·.giveUp around.taped.stamp) := edit_overlooks _ fun _ => rfl
  unfold fail
  rw [release_without spared spares]
  obtain ⟨queue, tape⟩ := scene
  have released := release_spec around.taped id queue tape
  generalize release around.taped id (queue, tape) = outcome at released
  cases released with
  | missing | dropped | ignored => rfl
  | @counted job =>
      -- both sides decide by the same scene, that of the job with its error noted
      have moved := noted.scene (vacate id queue, tape)
      have waiting :
          Spares gone (Scene.edit (edit id (noteError error)) (vacate id queue, tape)).1 := spares
      unfold noteError at moved waiting
      dsimp only
      rw [moved]
      generalize Scene.edit _ (vacate id queue, tape) = next at waiting
      have budget : (next.edit (without gone)).1.budget = next.1.budget := rfl
      have known : (next.edit (without gone)).1.workflow? = next.1.workflow? := rfl
      rw [budget, known, delay_without]
      split
      next =>
        obtain ⟨queue, tape⟩ := next
        have delayed := delay_spec around.taped job queue tape
        generalize delay around.taped job (queue, tape) = outcome at delayed
        cases delayed with
        | minded => exact congrArg (Prod.mk _) (admitAll_without waiting)
        | undelayable | unminded => rfl
      next => exact congrArg (Prod.mk _) (admitAll_tell_without spared ended _ waiting)

end Outcome

section Control

variable {around : Surroundings Time σ} {gone : List JobId} {id : JobId}
  {scene : Scene Time (List (Signal Time))}

theorem register_without (workflow : Definition) :
    (register around.taped workflow (scene.edit (without gone))).2 =
      Scene.edit (without gone) (register around.taped workflow scene).2 := by
  unfold register
  split
  · rfl
  · have put : Overlooks gone fun queue : Queue Time =>
        { queue with workflows := putWorkflow workflow.name workflow queue.workflows } :=
      fun _ => rfl
    exact hear_edit_without around put (.registered workflow) scene

theorem registerValue_without (data : Value) :
    (registerValue around.taped data (scene.edit (without gone))).2 =
      Scene.edit (without gone) (registerValue around.taped data scene).2 := by
  unfold registerValue
  split
  · split
    · exact register_without _
    · rfl
  · rfl

theorem unregister_without (name : String) :
    (unregister around.taped name (scene.edit (without gone))).2 =
      Scene.edit (without gone) (unregister around.taped name scene).2 := by
  have known : (scene.edit (without gone)).1.workflow? = scene.1.workflow? := rfl
  unfold unregister
  rw [known]
  split
  · rfl
  next workflow _ =>
    have removed : Overlooks gone fun queue : Queue Time =>
        { queue with workflows := queue.workflows.filter fun entry => entry.1 != name } :=
      fun _ => rfl
    exact hear_edit_without around removed (.unregistered workflow) scene

/-- A new job has a number of its own. -/
theorem enqueue_without (fresh : scene.1.issued ∉ gone) (spares : Spares gone scene.1)
    (name : String) (context : Context) :
    (enqueue around.taped name context (scene.edit (without gone))).2 =
      Scene.edit (without gone) (enqueue around.taped name context scene).2 := by
  have known : (scene.edit (without gone)).1.workflow? = scene.1.workflow? := rfl
  have stopping : (scene.edit (without gone)).1.stopping = scene.1.stopping := rfl
  have issued : (scene.edit (without gone)).1.issued = scene.1.issued := rfl
  have added : Overlooks gone fun queue : Queue Time =>
      { queue with
        jobs := queue.jobs ++ [scene.1.newJob name context around.taped.stamp]
        pending := queue.pending ++ [scene.1.issued]
        issued := scene.1.issued + 1 } := by
    intro queue
    simp [without, newJob, fresh]
  unfold enqueue
  rw [stopping, known, issued]
  split
  · rfl
  · split
    · rfl
    · split
      · rfl
      · exact admitAll_tell_without fresh added _ (spares.append fresh)

theorem enqueueValue_without (fresh : scene.1.issued ∉ gone) (spares : Spares gone scene.1)
    (name : Value) (context : Context) :
    (enqueueValue around.taped name context (scene.edit (without gone))).2 =
      Scene.edit (without gone) (enqueueValue around.taped name context scene).2 := by
  have stopping : (scene.edit (without gone)).1.stopping = scene.1.stopping := rfl
  unfold enqueueValue
  rw [stopping]
  split
  · exact enqueue_without fresh spares _ context
  · split <;> rfl

theorem cancel_without (spared : id ∉ gone) :
    (cancel around.taped id (scene.edit (without gone))).2 =
      Scene.edit (without gone) (cancel around.taped id scene).2 := by
  have listed : (scene.edit (without gone)).1.job? id = scene.1.job? id := job?_without spared
  have calledOff : Overlooks gone fun queue : Queue Time => undelay id
      { queue.edit id (callOff around.taped.stamp) with pending := queue.pending.erase id } := by
    have left : Overlooks gone fun queue : Queue Time =>
        undelay id { queue with pending := queue.pending.erase id } := fun _ => rfl
    exact left.comp (edit_overlooks _ fun _ => rfl)
  unfold cancel
  rw [listed]
  split
  · rfl
  · split
    · refine tell_edit_without spared ?_ _ scene
      exact edit_overlooks _ fun _ => rfl
    · exact tell_edit_without spared calledOff _ scene
    all_goals rfl

theorem retry_without (spared : id ∉ gone) (spares : Spares gone scene.1) :
    (retry around.taped id (scene.edit (without gone))).2 =
      Scene.edit (without gone) (retry around.taped id scene).2 := by
  have listed : (scene.edit (without gone)).1.job? id = scene.1.job? id := job?_without spared
  have stopping : (scene.edit (without gone)).1.stopping = scene.1.stopping := rfl
  have renewed : Overlooks gone fun queue : Queue Time => (queue.edit id Job.renew).append id := by
    have appended : Overlooks gone (append id : Queue Time → Queue Time) := fun _ => rfl
    exact appended.comp (edit_overlooks _ fun _ => rfl)
  unfold retry
  rw [listed, stopping]
  split
  · rfl
  · split
    · rfl
    · split
      · rfl
      · exact admitAll_tell_without spared renewed _ (spares.append spared)

theorem wake_without (spared : id ∉ gone) (spares : Spares gone scene.1) :
    wake around.taped id (scene.edit (without gone)) =
      (wake around.taped id scene).edit (without gone) := by
  have armed : (scene.edit (without gone)).1.delayed = scene.1.delayed := rfl
  have listed : ((scene.edit (without gone)).edit (undelay id)).1.job? id =
      (scene.edit (undelay id)).1.job? id := job?_without spared
  have appended : Overlooks gone (append id : Queue Time → Queue Time) := fun _ => rfl
  unfold wake
  rw [armed]
  split
  · dsimp only
    rw [listed]
    split
    · rfl
    · split
      · rfl
      · have waiting : Spares gone (append id (scene.edit (undelay id)).1) := spares.append spared
        exact admitAll_tell_without spared appended _ waiting
  · rfl

/-- The listener is not told of a cleanup. -/
theorem dropStale_taped (point : Int) (scene : Scene Time (List (Signal Time))) :
    (dropStale around.taped point scene).2 = scene.edit fun queue =>
      { queue with jobs := queue.jobs.filter fun job => !isStale point job } := by
  simp [dropStale, Surroundings.taped, Event.topic]

theorem cleanup_without (age : Value) :
    (cleanup around.taped age (scene.edit (without gone))).2 =
      Scene.edit (without gone) (cleanup around.taped age scene).2 := by
  have filtered : ∀ point, Overlooks gone fun queue : Queue Time =>
      { queue with jobs := queue.jobs.filter fun job => !isStale point job } := by
    intro point queue
    simp only [without, List.filter_filter, Bool.and_comm]
  unfold cleanup
  split
  · rfl
  · split
    · rfl
    next point _ =>
      simp only [dropStale_taped]
      exact (filtered point).scene scene

/-- An operation on other jobs does the same without the records of some jobs. -/
theorem apply_without (fresh : scene.1.issued ∉ gone) (spares : Spares gone scene.1)
    {operation : Operation} (others : ∀ id, operation.job? = some id → id ∉ gone) :
    operation.apply around.taped (scene.edit (without gone)) =
      (operation.apply around.taped scene).edit (without gone) := by
  cases operation with
  | register workflow => exact register_without workflow
  | registerValue data => exact registerValue_without data
  | unregister name => exact unregister_without name
  | enqueue name context => exact enqueueValue_without fresh spares name context
  | cancel id => exact cancel_without (others id rfl)
  | retry id => exact retry_without (others id rfl) spares
  | complete id result => exact complete_without (others id rfl) result spares
  | fail id error => exact congrArg Prod.snd (fail_without (others id rfl) error spares)
  | wake id => exact wake_without (others id rfl) spares
  | cleanup age => exact cleanup_without age
  | stop => rfl

end Control

end Queue

end Orchestra
