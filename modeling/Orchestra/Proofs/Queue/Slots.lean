import Mathlib.Data.List.Nodup
import Orchestra.Proofs.Queue.Runner

/-!
One execution for each slot.

The queue begins an execution when it starts a job, and the slot of the job is taken as long as the
execution lives. Listeners may use the queue as users do whenever they are told of an event, and the
listeners of these uses may use it again.
-/

namespace Orchestra

namespace Queue

variable {Time : Type}

/-- The live executions after something was written down, the latest first. -/
def Mark.follow (running : List (JobId × Nat)) : Mark Time → List (JobId × Nat)
  | .told _ => running
  | .tried id (.began execution _) => (id, execution) :: running
  | .tried id (.ended execution _) => running.erase (id, execution)

/-- The executions that began and did not end. -/
def live (log : List (Mark Time)) : List (JobId × Nat) :=
  log.foldl Mark.follow []

/-- The surroundings of a queue with a runner: every start of a job begins an execution, and the
listeners use the queue in their turn when they are told of an event. -/
inductive Lively : Surroundings Time (List (Mark Time)) → Prop where
  | mk {around : Surroundings Time (List (Mark Time))} {now : Time}
      (reaction : Event → Scene Time (List (Mark Time)) → List (Use Time (List (Mark Time))))
      (timed : around.clock = some now) (runs : around.runsJobs = true)
      (begins : ∀ id workflow log, around.launch id workflow log =
        log ++ [.tried id (.began ((begun (trialsOf id log)).length + 1) now)])
      (minds : ∀ id due log, around.mind id due log = log)
      (hears : ∀ event scene, around.hear event scene =
        run (reaction event scene) (scene.1, scene.2 ++ [.told event]))
      (byUser : ∀ event scene, ∀ use ∈ reaction event scene, use.operation.ByUser)
      (lively : ∀ event scene, ∀ use ∈ reaction event scene, Lively use.around) : Lively around

/-- The states of a queue with a runner that nobody but the runner reports to. -/
inductive Served (config : QueueConfig) : Scene Time (List (Mark Time)) → Prop where
  | fresh : Served config (empty config, [])
  | used {scene} {use : Use Time (List (Mark Time))} (served : Served config scene)
      (lively : Lively use.around) (byUser : use.operation.ByUser) :
      Served config (use.operation.apply use.around scene)
  /-- A live execution ends, and its outcome is reported. -/
  | finished {scene around id execution} (instant : Time) (verdict : Verdict)
      (served : Served config scene) (lively : Lively around)
      (underway : (id, execution) ∈ live scene.2) :
      Served config ((verdict.report id).apply around
        (scene.1, scene.2 ++ [.tried id (.ended execution instant)]))
  /-- The delay of a job may be over at any time. -/
  | woken {scene around} (id : JobId) (served : Served config scene) (lively : Lively around) :
      Served config ((Operation.wake id).apply around scene)

section Log

variable {log : List (Mark Time)} {id : JobId} {execution : Nat}

@[simp] theorem live_told (event : Event) : live (log ++ [.told event]) = live log := by
  simp [live, Mark.follow]

@[simp] theorem live_began (instant : Time) :
    live (log ++ [.tried id (.began execution instant)]) = (id, execution) :: live log := by
  simp [live, Mark.follow]

@[simp] theorem live_ended (instant : Time) :
    live (log ++ [.tried id (.ended execution instant)]) = (live log).erase (id, execution) := by
  simp [live, Mark.follow]

/-- Where each job has one entry, the entry of a job goes with all that there is of the job. -/
theorem map_fst_erase {entries : List (JobId × Nat)} (distinct : (entries.map Prod.fst).Nodup)
    (member : (id, execution) ∈ entries) :
    (entries.erase (id, execution)).map Prod.fst =
      (entries.map Prod.fst).filter (· != id) := by
  induction entries with
  | nil => cases member
  | cons first rest ih =>
      rw [List.map_cons, List.nodup_cons] at distinct
      by_cases same : first = (id, execution)
      · subst same
        have others : ∀ other ∈ rest.map Prod.fst, (other != id) = true := by
          intro other listed
          have different : other ≠ id := fun equal => distinct.1 (equal ▸ listed)
          simpa using different
        rw [List.erase_cons_head, List.map_cons, List.filter_cons_of_neg (by simp),
          List.filter_eq_self.mpr others]
      · have later : (id, execution) ∈ rest := (List.mem_cons.mp member).resolve_left (Ne.symm same)
        have different : first.1 ≠ id := by
          rintro rfl
          exact distinct.1 (List.mem_map.mpr ⟨_, later, rfl⟩)
        rw [List.erase_cons_tail (by simpa using same), List.map_cons, List.map_cons,
          List.filter_cons_of_pos (by simpa using different), ih distinct.2 later]

end Log

/-- In a log, each job has one live execution at most, and there are no more than the limit. -/
structure Orderly (config : QueueConfig) (log : List (Mark Time)) : Prop where
  distinct : ((live log).map Prod.fst).Nodup
  within : ((live log).length : Int) ≤ max 0 config.maxConcurrent

/-- A log that was orderly so far stays so with one more mark. -/
theorem orderly_append {config : QueueConfig} {log : List (Mark Time)} {mark : Mark Time}
    (sofar : ∀ past, past <+: log → Orderly config past) (orderly : Orderly config (log ++ [mark])) :
    ∀ past, past <+: log ++ [mark] → Orderly config past := by
  intro past begins
  rcases List.prefix_concat_iff.mp begins with rfl | earlier
  · exact orderly
  · exact sofar past earlier

theorem Orderly.told {config : QueueConfig} {log : List (Mark Time)} (orderly : Orderly config log)
    (event : Event) : Orderly config (log ++ [.told event]) := by
  refine ⟨?_, ?_⟩
  · rw [live_told]
    exact orderly.distinct
  · rw [live_told]
    exact orderly.within

/-- An execution is that of the attempt that its job is at: the job was told of when it was started,
no execution of it began since, and its record is the one that was told, unless it was cancelled. -/
structure AtAttempt (scene : Scene Time (List (Mark Time))) (id : JobId) (execution : Nat)
    (job : Job) : Prop where
  own : job.id = id
  running : job.status = .running
  latest : ∃ before instant since,
    scene.2 = before ++ .tried id (.began execution instant) :: .told (.started job) :: since ∧
      ∀ other later, .tried id (.began other later) ∉ since
  record : scene.1.job? id = some job ∨ scene.1.job? id = some { job with status := .cancelled }

/-- Nothing but another execution of the job ends an attempt's being the latest. -/
theorem AtAttempt.append {queue : Queue Time} {log : List (Mark Time)} {id : JobId}
    {execution : Nat} {job : Job} (attempt : AtAttempt (queue, log) id execution job)
    {mark : Mark Time} (other : ∀ another later, mark ≠ .tried id (.began another later)) :
    AtAttempt (queue, log ++ [mark]) id execution job := by
  obtain ⟨own, running, ⟨before, instant, since, split, latest⟩, record⟩ := attempt
  have split : log = _ := split
  refine ⟨own, running, ⟨before, instant, since ++ [mark], ?_, ?_⟩, record⟩
  · show log ++ [mark] = _
    rw [split, List.append_assoc, List.cons_append, List.cons_append]
  · intro another later member
    rcases List.mem_append.mp member with earlier | last
    · exact latest another later earlier
    · exact other another later (List.mem_singleton.mp last).symm

/-- The live executions are those of the jobs in the slots, each at the attempt of its job. -/
structure Manned (config : QueueConfig) (scene : Scene Time (List (Mark Time))) : Prop where
  sound : Sound scene.1
  same : scene.1.config = config
  slots : (live scene.2).map Prod.fst = scene.1.running
  attempts : ∀ id execution, (id, execution) ∈ live scene.2 →
    ∃ job, AtAttempt scene id execution job
  orderly : ∀ past, past <+: scene.2 → Orderly config past

section Standing

variable {queue : Queue Time} {id : JobId}

/-- No job has two slots. -/
theorem Sound.running_nodup (sound : Sound queue) : queue.running.Nodup := by
  rw [List.nodup_iff_count_le_one]
  intro id
  obtain ⟨standing, stands⟩ := sound.stands id
  exact stands.once.2

theorem Sound.stands_slot (sound : Sound queue) (slot : id ∈ queue.running) :
    ∃ job, queue.Stands id (some (job, .slot)) := by
  obtain ⟨standing, stands⟩ := sound.stands id
  obtain ⟨job, rfl⟩ := stands.mem_running.mp slot
  exact ⟨job, stands⟩

variable {σ : Type} {around : Surroundings Time σ} {operation : Operation} {next : Queue Time}
  {signals : List (Signal Time)}

/-- Unless its outcome is reported, a job keeps its slot, and its record but for being cancelled. -/
theorem Move.keeps_slot (move : Move around operation queue signals next) (sound : Sound queue)
    {record : Job} (stands : queue.Stands id (some (record, .slot)))
    (unreported : ¬ operation.Reports id) :
    next.job? id = some record ∨
      record.status = .running ∧ next.job? id = some { record with status := .cancelled } := by
  obtain ⟨after, passage, card⟩ := move.passes sound stands
  have stands' : next.Stands id after := ⟨card, passage.fits stands.fits⟩
  have listed : next.job? id = after.map Prod.fst := stands'.job?
  generalize signals.filter (·.concerns id) = own at passage
  cases passage with
  | stay => exact .inl listed
  | cancelledRunning running => exact .inr ⟨running, listed⟩
  | cancelledWaiting waiting =>
      have fits := stands.fits.2
      simp [waiting] at fits
  | discarded reports => exact absurd reports unreported
  | succeeded | gaveUp | postponed | undelayable | unminded => exact absurd rfl unreported

end Standing

namespace Manned

variable {config : QueueConfig} {queue next : Queue Time} {log : List (Mark Time)} {id : JobId}
  {execution : Nat}

theorem mem_running_iff (manned : Manned config (queue, log)) :
    id ∈ queue.running ↔ ∃ execution, (id, execution) ∈ live log := by
  have slots : (live log).map Prod.fst = queue.running := manned.slots
  rw [← slots, List.mem_map]
  constructor
  · rintro ⟨⟨_, execution⟩, member, rfl⟩
    exact ⟨execution, member⟩
  · rintro ⟨execution, member⟩
    exact ⟨_, member, rfl⟩

theorem empty (config : QueueConfig) : Manned config ((Queue.empty config : Queue Time), []) where
  sound := sound_empty config
  same := rfl
  slots := rfl
  attempts _ _ member := by cases member
  orderly past begins := by
    rw [List.prefix_nil.mp begins]
    exact ⟨List.nodup_nil, Int.le_max_left 0 _⟩

/-- Telling of an event alone changes nothing. -/
theorem told (manned : Manned config (queue, log)) (event : Event) :
    Manned config (queue, log ++ [.told event]) where
  sound := manned.sound
  same := manned.same
  slots := by
    rw [live_told]
    exact manned.slots
  attempts id execution member := by
    rw [live_told] at member
    obtain ⟨job, attempt⟩ := manned.attempts id execution member
    exact ⟨job, attempt.append nofun⟩
  orderly := orderly_append manned.orderly ((manned.orderly log (List.prefix_refl _)).told event)

variable {σ : Type} {around : Surroundings Time σ} {operation : Operation}
  {signals : List (Signal Time)}

/-- A move keeps the attempt of a job whose outcome it does not report. -/
theorem attempt_move (manned : Manned config (queue, log))
    (move : Move around operation queue signals next) (unreported : ¬ operation.Reports id)
    (member : (id, execution) ∈ live log) : ∃ job, AtAttempt (next, log) id execution job := by
  obtain ⟨job, own, running, latest, record⟩ := manned.attempts id execution member
  obtain ⟨found, stands⟩ := manned.sound.stands_slot (manned.mem_running_iff.mpr ⟨_, member⟩)
  have listed : queue.job? id = some found := stands.job?
  have kept := move.keeps_slot manned.sound stands unreported
  refine ⟨job, own, running, latest, ?_⟩
  show next.job? id = some job ∨ next.job? id = some { job with status := .cancelled }
  rcases record with record | record
  · have same : found = job := Option.some.inj (listed.symm.trans record)
    subst same
    exact kept.imp_right And.right
  · have same : found = { job with status := .cancelled } :=
      Option.some.inj (listed.symm.trans record)
    subst same
    rcases kept with kept | ⟨running, -⟩
    · exact .inr kept
    · cases running

/-- A move that neither starts a job nor reports an outcome. -/
theorem move (manned : Manned config (queue, log))
    (move : Move around operation queue signals next)
    (unreported : ∀ id, ¬ operation.Reports id) (kept : next.running = queue.running) :
    Manned config (next, log) where
  sound := manned.sound.move move
  same := move.config.trans manned.same
  slots := manned.slots.trans kept.symm
  attempts id _ member := manned.attempt_move move (unreported id) member
  orderly := manned.orderly

/-- The end of an execution and the move that takes its job out of its slot. -/
theorem ended (manned : Manned config (queue, log)) (underway : (id, execution) ∈ live log)
    (move : Move around operation queue signals next)
    (only : ∀ other, operation.Reports other → other = id)
    (vacated : next.running = queue.running.filter (· != id)) (instant : Time) :
    Manned config (next, log ++ [.tried id (.ended execution instant)]) := by
  have whole := manned.orderly log (List.prefix_refl _)
  have slots : ((live log).erase (id, execution)).map Prod.fst = next.running := by
    rw [map_fst_erase whole.distinct underway, vacated]
    exact congrArg _ manned.slots
  refine ⟨manned.sound.move move, move.config.trans manned.same, ?_, ?_, ?_⟩
  · rw [live_ended]
    exact slots
  · intro other execution' member
    rw [live_ended] at member
    have different : other ≠ id := by
      rintro rfl
      have still : other ∈ next.running := slots ▸ List.mem_map.mpr ⟨_, member, rfl⟩
      rw [vacated] at still
      simpa using (List.mem_filter.mp still).2
    obtain ⟨job, attempt⟩ := manned.attempt_move move
      (fun reports => different (only other reports)) (List.mem_of_mem_erase member)
    exact ⟨job, attempt.append nofun⟩
  · refine orderly_append manned.orderly ⟨?_, ?_⟩
    · rw [live_ended]
      exact whole.distinct.sublist (List.erase_sublist.map _)
    · rw [live_ended]
      have shorter : ((live log).erase (id, execution)).length ≤ (live log).length :=
        List.erase_sublist.length_le
      have within := whole.within
      omega

/-- A job that is started takes a slot, and an execution of it begins. -/
theorem started (manned : Manned config (queue, log)) {rest : List JobId} {workflow : Definition}
    {job : Job} (line : queue.pending = id :: rest) (room : queue.hasRoom)
    (listed : queue.job? id = some job) (waiting : job.status = .pending)
    (known : queue.workflow? job.workflow = some workflow)
    (timed : around.runsJobs → around.clock.isSome) (going : queue.stopping = false)
    (execution : Nat) (now : Time) :
    Manned config
      ((edit id (·.start around.stamp) { queue with pending := rest }).occupy id,
        log ++ [.tried id (.began execution now)] ++
          [.told (.started (job.start around.stamp))]) := by
  have move : Move around .stop queue _ _ := .started line room listed waiting known timed going
  have free : id ∉ queue.running := by
    obtain ⟨standing, stands⟩ := manned.sound.stands id
    rw [stands.mem_running, stands.of_line line listed]
    simp
  have occupied : ((edit id (·.start around.stamp) { queue with pending := rest }).occupy id).running =
      id :: queue.running := List.insert_of_not_mem free
  have slots : (live log).map Prod.fst = queue.running := manned.slots
  refine ⟨manned.sound.move move, move.config.trans manned.same, ?_, ?_, ?_⟩
  · show (live _).map Prod.fst = _
    rw [live_told, live_began, List.map_cons, slots, occupied]
  · intro other execution' member
    rw [live_told, live_began] at member
    rcases List.mem_cons.mp member with same | earlier
    · cases same
      have number : job.id = id := job?_id listed
      refine ⟨job.start around.stamp, number, rfl, ⟨log, now, [], ?_, nofun⟩, .inl ?_⟩
      · rw [List.append_assoc]
        rfl
      · exact job?_edit_self _ (fun _ => rfl) listed
    · obtain ⟨found, attempt⟩ := manned.attempt_move move (not_false : ¬ Operation.stop.Reports _) earlier
      have different : id ≠ other := by
        rintro rfl
        exact free (manned.mem_running_iff.mpr ⟨_, earlier⟩)
      refine ⟨found, AtAttempt.append (attempt.append ?_) nofun⟩
      rintro another later ⟨⟩
      exact different rfl
  · have begins : Orderly config (log ++ [.tried id (.began execution now)]) := by
      have within : (queue.running.length : Int) < queue.config.maxConcurrent := by
        simpa [hasRoom] using room
      have counted : (live log).length = queue.running.length := by
        rw [← slots, List.length_map]
      have limit : queue.config = config := manned.same
      rw [limit] at within
      refine ⟨?_, ?_⟩
      · rw [live_began, List.map_cons, slots]
        exact List.nodup_cons.mpr ⟨free, manned.sound.running_nodup⟩
      · rw [live_began, List.length_cons, counted]
        omega
    exact orderly_append (orderly_append manned.orderly begins) (begins.told _)

end Manned

/-- Surroundings of a queue with a runner whose listeners leave it manned. -/
structure Tame (config : QueueConfig) (around : Surroundings Time (List (Mark Time))) : Prop where
  timed : around.clock.isSome
  runs : around.runsJobs = true
  begins : ∀ id workflow log, ∃ execution now,
    around.launch id workflow log = log ++ [.tried id (.began execution now)]
  minds : ∀ id due log, around.mind id due log = log
  hears : ∀ event scene, Manned config (scene.1, scene.2 ++ [.told event]) →
    Manned config (around.hear event scene)

namespace Tame

variable {config : QueueConfig} {around : Surroundings Time (List (Mark Time))}
  {operation : Operation} {queue next : Queue Time} {log : List (Mark Time)} {id : JobId}
  {signals : List (Signal Time)}

theorem hear (tame : Tame config around) (event : Event) {scene : Scene Time (List (Mark Time))}
    (manned : Manned config scene) : Manned config (around.hear event scene) :=
  tame.hears event scene (manned.told event)

theorem tell (tame : Tame config around) (event : Job → Event) (id : JobId)
    {scene : Scene Time (List (Mark Time))} (manned : Manned config scene) :
    Manned config (scene.tell around event id) := by
  unfold Scene.tell
  split
  · exact tame.hear _ manned
  · exact manned

/-- A start begins an execution before anyone hears of it. -/
theorem start (tame : Tame config around) (manned : Manned config (queue, log))
    {rest : List JobId} {workflow : Definition} {job : Job} (line : queue.pending = id :: rest)
    (room : queue.hasRoom) (listed : queue.job? id = some job) (waiting : job.status = .pending)
    (known : queue.workflow? job.workflow = some workflow) (going : queue.stopping = false) :
    Manned config (Queue.start around id workflow ({ queue with pending := rest }, log)) := by
  obtain ⟨execution, now, begun⟩ := tame.begins id workflow log
  have found : ((edit id (·.start around.stamp) { queue with pending := rest }).occupy id).job? id =
      some (job.start around.stamp) := job?_edit_self _ (fun _ => rfl) listed
  unfold Queue.start
  apply tame.tell
  simp only [tame.runs, if_true, begun, Scene.edit, Scene.tell, found]
  exact tame.hears _ _
    (manned.started line room listed waiting known (fun _ => tame.timed) going execution now)

/-- Signals that begin nothing leave the queue manned. -/
theorem deliver (tame : Tame config around) {scene : Scene Time (List (Mark Time))}
    (manned : Manned config scene) (unlaunched : ∀ id workflow, .launched id workflow ∉ signals) :
    Manned config (signals.foldl around.deliver scene) := by
  induction signals generalizing scene with
  | nil => exact manned
  | cons signal rest ih =>
      rw [List.foldl_cons]
      refine ih ?_ fun id workflow member => unlaunched id workflow (List.mem_cons_of_mem _ member)
      cases signal with
      | told event => exact tame.hear event manned
      | launched id workflow => exact absurd List.mem_cons_self (unlaunched id workflow)
      | minded id due =>
          show Manned config (scene.1, around.mind id due scene.2)
          rw [tame.minds]
          exact manned

/-- A move of an operation that reports no outcome either starts a job or begins nothing. -/
theorem move (tame : Tame config around) (manned : Manned config (queue, log))
    (move : Move around operation queue signals next)
    (unreported : ∀ id, ¬ operation.Reports id) :
    Manned config (signals.foldl around.deliver (next, log)) := by
  have unstarted (kept : next.running = queue.running) : Manned config (next, log) :=
    manned.move move unreported kept
  cases move with
  | @started _ _ id rest workflow job line room listed waiting known timed going =>
      obtain ⟨execution, now, begun⟩ := tame.begins id workflow log
      have manned := tame.hears (.started (job.start around.stamp))
        (_, log ++ [.tried id (.began execution now)])
        (manned.started line room listed waiting known timed going execution now)
      simp only [tame.runs, if_true, List.cons_append, List.nil_append, List.foldl_cons,
        List.foldl_nil, Surroundings.deliver, begun]
      exact tame.hear _ manned
  | cleaned cutoff signals told =>
      refine tame.deliver (unstarted rfl) fun id workflow member => ?_
      obtain ⟨count, same⟩ := told _ member
      cases same
  | released reports | discarded reports => exact absurd reports (unreported _)
  | succeeded | gaveUp | postponed | undelayable | unminded => exact absurd rfl (unreported _)
  | _ => exact tame.deliver (unstarted rfl) (by simp)

theorem acts (tame : Tame config around) {first last : Scene Time (List (Mark Time))}
    (acts : Acts around operation first last) (unreported : ∀ id, ¬ operation.Reports id)
    (manned : Manned config first) : Manned config last := by
  apply acts.preserves (Manned config)
  · intro queue signals next log move manned
    exact tame.move manned move unreported
  · intro queue id rest workflow job log line room listed waiting known _ going manned
    exact tame.start manned line room listed waiting known going
  · exact manned

/-- An operation that reports no outcome leaves the queue manned. -/
theorem apply (tame : Tame config around) {scene : Scene Time (List (Mark Time))}
    (manned : Manned config scene) (unreported : ∀ id, ¬ operation.Reports id) :
    Manned config (operation.apply around scene) :=
  tame.acts (operation.acts manned.sound.fresh) unreported manned

theorem admitAll (tame : Tame config around) {scene : Scene Time (List (Mark Time))}
    (manned : Manned config scene) : Manned config (Queue.admitAll around scene) := by
  have admits : Acts around .stop scene (Queue.admitAll around scene) := admitAll_acts scene
  exact tame.acts admits (fun _ => not_false) manned

/-- The report of the outcome of a live execution leaves the queue manned. -/
theorem report (tame : Tame config around) (manned : Manned config (queue, log))
    {execution : Nat} {instant : Time} (underway : (id, execution) ∈ live log)
    {outcome : Scene Time (List (Mark Time))}
    (only : ∀ other, operation.Reports other → other = id)
    (reported : Reported around operation id queue (log ++ [.tried id (.ended execution instant)])
      outcome) : Manned config outcome := by
  have ended {signals : List (Signal Time)} {next : Queue Time}
      (move : Move around operation queue signals next)
      (vacated : next.running = queue.running.filter (· != id)) :
      Manned config (next, log ++ [.tried id (.ended execution instant)]) :=
    manned.ended underway move only vacated instant
  cases reported with
  | missing gone =>
      obtain ⟨found, stands⟩ := manned.sound.stands_slot (manned.mem_running_iff.mpr ⟨_, underway⟩)
      rw [stands.job?] at gone
      cases gone
  | alone move vacated => exact ended move vacated
  | silent move vacated => exact tame.admitAll (ended move vacated)
  | told move vacated => exact tame.admitAll (tame.hear _ (ended move vacated))
  | minded move vacated =>
      rw [tame.minds]
      exact tame.admitAll (ended move vacated)

end Tame

/-- Listeners that use the queue as users do leave it manned, by induction on what they do in turn. -/
theorem Lively.tame {around : Surroundings Time (List (Mark Time))} (config : QueueConfig)
    (lively : Lively around) : Tame config around := by
  induction lively with
  | @mk around now reaction timed runs begins minds hears byUser _ ih =>
      refine ⟨by rw [timed]; rfl, runs, fun id workflow log => ⟨_, now, begins id workflow log⟩, minds,
        ?_⟩
      intro event scene manned
      rw [hears]
      apply run_preserves (Manned config)
      · intro use member scene manned
        exact (ih event _ use member).apply manned fun _ => (byUser event _ use member).not_reports
      · exact manned

/-- Every state of a queue with a runner is manned. -/
theorem Served.manned {config : QueueConfig} {scene : Scene Time (List (Mark Time))}
    (served : Served config scene) : Manned config scene := by
  induction served with
  | fresh => exact .empty config
  | used _ lively byUser ih => exact (lively.tame config).apply ih fun _ => byUser.not_reports
  | finished instant verdict _ lively underway ih =>
      exact (lively.tame config).report ih underway (verdict.only_reports _)
        (verdict.reported _ _ _ _)
  | woken id _ lively ih => exact (lively.tame config).apply ih fun _ => not_false

/-- In every state of a queue with a runner, at most one execution of each job is live, the jobs with
a live execution are exactly those in the slots, and there never were more of them at a time than may
run. A live execution is the latest of its job, and the record of the job is that of the attempt which
began it: its outcome will count for that attempt, or for none if the job was cancelled. -/
theorem served_slots {config : QueueConfig} {scene : Scene Time (List (Mark Time))}
    (served : Served config scene) :
    (live scene.2).map Prod.fst = scene.1.running ∧
      (∀ past, past <+: scene.2 → ((live past).map Prod.fst).Nodup ∧
        ((live past).length : Int) ≤ max 0 config.maxConcurrent) ∧
      ∀ id execution, (id, execution) ∈ live scene.2 →
        ∃ before instant job since,
          scene.2 = before ++ .tried id (.began execution instant) :: .told (.started job) :: since ∧
          (∀ another later, .tried id (.began another later) ∉ since) ∧
          job.id = id ∧ job.status = .running ∧
          ∀ (around : Surroundings Time (List (Mark Time))) log,
            scene.1.job? id = some job ∧ (release around id (scene.1, log)).1 = some job ∨
              scene.1.job? id = some { job with status := .cancelled } ∧
                (release around id (scene.1, log)).1 = none := by
  obtain ⟨queue, marks⟩ := scene
  have manned := served.manned
  refine ⟨manned.slots, fun past begins => ?_, ?_⟩
  · have orderly := manned.orderly past begins
    exact ⟨orderly.distinct, orderly.within⟩
  · intro id execution member
    obtain ⟨job, own, running, ⟨before, instant, since, split, latest⟩, record⟩ :=
      manned.attempts id execution member
    refine ⟨before, instant, job, since, split, latest, own, running, fun around log => ?_⟩
    have slot : id ∈ queue.running := manned.mem_running_iff.mpr ⟨_, member⟩
    refine record.imp (fun listed => ⟨listed, ?_⟩) fun listed => ⟨listed, ?_⟩
    · have listed : queue.job? id = some job := listed
      simp [release, listed, running, slot]
    · have listed : queue.job? id = some { job with status := .cancelled } := listed
      simp [release, listed]

theorem Served.run {config : QueueConfig} {scene : Scene Time (List (Mark Time))}
    {uses : List (Use Time (List (Mark Time)))} (served : Served config scene)
    (lively : ∀ use ∈ uses, Lively use.around) (byUser : ∀ use ∈ uses, use.operation.ByUser) :
    Served config (Queue.run uses scene) := by
  apply run_preserves (Served config)
  · intro use member scene served
    exact served.used (lively use member) (byUser use member)
  · exact served

/-- The usual surroundings are lively: nobody does anything there when told of an event. -/
theorem attending_lively (after : Time → Number → Except Failure Time) (now : Time) (stamp : Stamp) :
    Lively (attending after now stamp) :=
  .mk (fun _ _ => []) rfl rfl (fun _ _ _ => rfl) (fun _ _ _ => rfl) (fun _ _ => rfl)
    (fun _ _ _ member => absurd member List.not_mem_nil)
    (fun _ _ _ member => absurd member List.not_mem_nil)

/-- A listener cancels each job as soon as it is told that the job was started. -/
def cancelStarted : Event → Scene Nat (List (Mark Nat)) → List (Use Nat (List (Mark Nat)))
  | .started job, _ => [⟨attending countOn 0 0, .cancel job.id⟩]
  | _, _ => []

def cancelling : Surroundings Nat (List (Mark Nat)) where
  stamp := 0
  clock := some 0
  after := countOn
  runsJobs := true
  hear event scene := run (cancelStarted event scene) (scene.1, scene.2 ++ [.told event])
  launch id _ log := log ++ [.tried id (.began ((begun (trialsOf id log)).length + 1) 0)]
  mind _ _ log := log

theorem cancelling_lively : Lively cancelling := by
  have cancels {event : Event} {scene : Scene Nat (List (Mark Nat))} {use : Use Nat (List (Mark Nat))}
      (member : use ∈ cancelStarted event scene) :
      ∃ id, use = ⟨attending countOn 0 0, .cancel id⟩ := by
    cases event with
    | started job => exact ⟨job.id, List.mem_singleton.mp member⟩
    | _ => cases member
  refine .mk cancelStarted rfl rfl (fun _ _ _ => rfl) (fun _ _ _ => rfl) (fun _ _ => rfl) ?_ ?_
  · intro event scene use member
    obtain ⟨id, rfl⟩ := cancels member
    exact trivial
  · intro event scene use member
    obtain ⟨id, rfl⟩ := cancels member
    exact attending_lively countOn 0 0

def singleSlot : QueueConfig where
  maxConcurrent := 1
  maxRetries := 1
  strategy := .fixed (.int 1) (.int 1)

/-- Two jobs are put into the line of a queue with one slot. -/
def cancelledScene : Scene Nat (List (Mark Nat)) :=
  run [⟨cancelling, .register { name := "wf" }⟩, ⟨cancelling, .enqueue (.str "wf") {}⟩,
    ⟨cancelling, .enqueue (.str "wf") {}⟩] (empty singleSlot, [])

theorem served_cancelledScene : Served singleSlot cancelledScene := by
  refine Served.fresh.run ?_ ?_
  · simp [cancelling_lively]
  · simp [Operation.ByUser]

/-- The job that is cancelled while it is started keeps its slot, and its outcome will not count. -/
theorem cancelled_job_keeps_slot :
    Served singleSlot cancelledScene ∧ live cancelledScene.2 = [(0, 1)] ∧
      cancelledScene.1.running = [0] ∧ cancelledScene.1.pending = [1] ∧
      ∀ (around : Surroundings Nat (List (Mark Nat))) log,
        (release around 0 (cancelledScene.1, log)).1 = none := by
  have underway : live cancelledScene.2 = [(0, 1)] := by
    decide +kernel
  have cancelled : (cancelledScene.1.job? 0).map Job.status = some .cancelled := by
    decide +kernel
  obtain ⟨slots, -, attempts⟩ := served_slots served_cancelledScene
  refine ⟨served_cancelledScene, underway, ?_, by decide +kernel, ?_⟩
  · rw [← slots, underway]
    rfl
  · obtain ⟨_, _, job, _, _, _, _, running, outcome⟩ := attempts 0 1 (by rw [underway]; simp)
    intro around log
    rcases outcome around log with ⟨listed, -⟩ | ⟨-, dropped⟩
    · rw [listed, Option.map_some, running] at cancelled
      cases cancelled
    · exact dropped

end Queue

end Orchestra
