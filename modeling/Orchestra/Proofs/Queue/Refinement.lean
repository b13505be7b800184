import Orchestra.Proofs.Queue.Runner

/-!
A queue with a runner gives each of its jobs the plain retry loop.

A job that is not disturbed goes through its own loop, whatever becomes of the others: where the job
stands shows where its loop is, every move goes on with the loop or leaves it as it is, and so does
every report. Listeners are told of a move after it, so they find all jobs in their loops, and they
leave them there since they use the queue as users do.
-/

namespace Orchestra.Queue

variable {Time : Type}

section Loop

variable [Preorder Time]

/-- The attempts of a job are a course of the plain retry loop. -/
def Loops (verdict : Nat → Verdict) (after : Time → Number → Except Failure Time)
    (config : QueueConfig) (id : JobId) (now : Time) (scene : Scene Time (List (Mark Time)))
    (job : Job) (place : Place Time) : Prop :=
  ∃ stage, Course verdict (Rested after config) (scene.1.budget job.workflow)
    (trialsOf id scene.2) stage ∧ Shows verdict after config now job stage place

/-- A job goes through its loop as long as it is not disturbed. -/
def Follows (verdict : Nat → Verdict) (after : Time → Number → Except Failure Time)
    (config : QueueConfig) (id : JobId) (now : Time) (scene : Scene Time (List (Mark Time))) :
    Standing Time → Prop
  | none => scene.1.issued ≤ id → trialsOf id scene.2 = []
  | some (job, place) => id < scene.1.issued ∧ (∃ mark ∈ scene.2, mark.enqueues id) ∧
    (Undisturbed id job.workflow scene.2 → (scene.1.workflow? job.workflow).isSome ∧
      Loops verdict after config id now scene job place)

variable {verdict : Nat → Verdict} {after : Time → Number → Except Failure Time}
  {config : QueueConfig} {now later : Time} {stamp : Stamp} {id : JobId}

theorem Follows.mono {scene : Scene Time (List (Mark Time))} {standing : Standing Time}
    (follows : Follows verdict after config id now scene standing) (order : now ≤ later) :
    Follows verdict after config id later scene standing := by
  rcases standing with _ | ⟨job, place⟩
  · exact follows
  · obtain ⟨old, enqueued, loops⟩ := follows
    refine ⟨old, enqueued, fun undisturbed => ?_⟩
    obtain ⟨known, stage, course, shown⟩ := loops undisturbed
    exact ⟨known, stage, course, shown.mono order⟩

section Step

variable {operation : Operation} {queue next : Queue Time} {signals : List (Signal Time)}
  {log : List (Mark Time)}

/-- The loop of a job goes on with a move that does not disturb it. -/
theorem Follows.of_move {job changed : Job} {place moved : Place Time} (keyed : Keyed queue)
    (move : Move (attending after now stamp) operation queue signals next)
    (follows : Follows verdict after config id now (queue, log) (some (job, place)))
    (same : changed.workflow = job.workflow)
    (loops : (queue.workflow? job.workflow).isSome →
      (∀ event, .told event ∈ signals →
        (Mark.told event : Mark Time).disturbs id job.workflow = false) →
      ∀ stage, Course verdict (Rested after config) (queue.budget job.workflow)
          (trialsOf id log) stage →
        Shows verdict after config now job stage place →
        ∃ stage, Course verdict (Rested after config) (queue.budget job.workflow)
            (trialsOf id (signals.foldl ((attending after now stamp).receive next) log)) stage ∧
          Shows verdict after config now changed stage moved) :
    Follows verdict after config id now
      (next, signals.foldl ((attending after now stamp).receive next) log)
      (some (changed, moved)) := by
  obtain ⟨old, enqueued, looping⟩ := follows
  obtain ⟨marks, grown, -⟩ := attending_foldl after now stamp next signals log
  refine ⟨Nat.lt_of_lt_of_le old move.issued.1, ?_, fun undisturbed => ?_⟩
  · rw [grown]
    exact enqueued_append enqueued
  · rw [same] at undisturbed
    obtain ⟨earlier, harmless, kept, budget⟩ := undisturbed.of_move keyed move enqueued
    obtain ⟨known, stage, course, shown⟩ := looping earlier
    obtain ⟨stage, course, shown⟩ := loops known harmless stage course shown
    refine ⟨?_, stage, ?_, shown⟩
    · rw [same]
      exact kept ▸ known
    · rw [same]
      exact budget ▸ course

/-- Nothing is asked of a job in a move that tells of its being disturbed. -/
theorem Follows.of_told {job changed : Job} {place moved : Place Time} {event : Event}
    (keyed : Keyed queue) (move : Move (attending after now stamp) operation queue signals next)
    (follows : Follows verdict after config id now (queue, log) (some (job, place)))
    (same : changed.workflow = job.workflow) (sent : .told event ∈ signals)
    (disturbs : (Mark.told event : Mark Time).disturbs id job.workflow = true) :
    Follows verdict after config id now
      (next, signals.foldl ((attending after now stamp).receive next) log)
      (some (changed, moved)) :=
  follows.of_move keyed move same fun _ harmless =>
    absurd ((harmless event sent).symm.trans disturbs) Bool.false_ne_true

/-- A passage of a job that no report makes goes on with the loop of the job. -/
theorem Passage.follows {before last : Standing Time} (keyed : Keyed queue)
    (move : Move (attending after now stamp) operation queue signals next)
    (passage : Passage (attending after now stamp) queue id operation before
      (signals.filter (·.concerns id)) last)
    (fits : Fits id before) (unreported : ¬ operation.Reports id)
    (awake : operation = .wake id → ∀ job due, before = some (job, .delay due) → due ≤ now)
    (follows : Follows verdict after config id now (queue, log) before) :
    Follows verdict after config id now
      (next, signals.foldl ((attending after now stamp).receive next) log) last := by
  have tried := trialsOf_foldl id after now stamp next signals
    (rfl : trialsOf id log = trialsOf id log)
  obtain ⟨newer, issued⟩ := move.issued
  have told : ∀ event, .told event ∈ signals.filter (·.concerns id) → .told event ∈ signals :=
    fun event sent => (List.mem_filter.mp sent).1
  generalize sent : signals.filter (·.concerns id) = own at passage tried told
  cases passage with
  | stay =>
      rcases before with _ | ⟨job, place⟩
      · exact fun unissued => tried.trans (follows (Nat.le_trans newer unissued))
      · exact follows.of_move keyed move rfl fun known harmless stage course shown =>
          ⟨stage, tried ▸ course, shown⟩
  | @enqueued _ name _ _ new known =>
      have sole := told _ (List.mem_singleton_self _)
      obtain ⟨marks, grown, heard⟩ := attending_foldl after now stamp next signals log
      have untried : trialsOf id (signals.foldl ((attending after now stamp).receive next) log) =
          [] := by
        rw [tried, ← follows (Nat.le_of_eq new.symm)]
        exact trialsOf_told log _
      refine ⟨?_, ⟨_, by rw [grown]; exact List.mem_append_right _ (heard _ sole), ?_⟩, ?_⟩
      · show id < next.issued
        rw [issued _ sole, new]
        exact Nat.lt_succ_self _
      · simp [Mark.enqueues, newJob, new]
      · intro undisturbed
        refine ⟨?_, .ready 0 none, ?_, none, rfl, by simp⟩
        · show (next.workflow? name).isSome
          rw [move.workflow? id (sent ▸ List.cons_ne_nil _ _), known]
          rfl
        · rw [untried]
          exact .fresh
  | @started _ _ job waiting known timed =>
      refine follows.of_move keyed move rfl fun known harmless stage course shown => ?_
      obtain ⟨since, rfl, rested⟩ := shown
      -- the runner numbers the attempts, and the queue counts them on its own
      have counted : (begun (trialsOf id log)).length = job.attempts := by
        rw [course.begun_eq, List.length_range']
        rfl
      have began : trialsOf id (signals.foldl ((attending after now stamp).receive next) log) =
          trialsOf id log ++ [.began (job.attempts + 1) now] := by
        rw [tried, ← counted]
        exact (trialsOf_told _ _).trans ((trialsOf_told _ _).trans (trialsOf_tried_self log _))
      exact ⟨_, began ▸ course.began rested, rfl, rfl⟩
  | refused waiting reason =>
      refine follows.of_move keyed move rfl fun known harmless stage course shown => ?_
      rcases reason with gone | ⟨-, untimed⟩
      · simp [gone] at known
      · cases untimed
  | cancelledRunning | cancelledWaiting | renewed =>
      exact follows.of_told keyed move rfl (told _ (List.mem_singleton_self _))
        (beq_iff_eq.mpr fits.1)
  | discarded reports => exact (unreported reports).elim
  | succeeded | gaveUp | postponed | undelayable | unminded => exact (unreported rfl).elim
  | @readmitted due job waiting =>
      refine follows.of_move keyed move rfl fun known harmless stage course shown => ?_
      obtain ⟨failed, seconds, rfl, delay, counted⟩ := shown
      refine ⟨_, ?_, some failed, rfl, ?_⟩
      · rw [tried]
        exact (trialsOf_told log _).symm ▸ course
      · rintro _ ⟨⟩
        exact ⟨seconds, due, delay, counted, awake rfl job due rfl⟩
  | dropped ended =>
      exact fun unissued => absurd follows.1 (Nat.not_lt.mpr (Nat.le_trans newer unissued))
  | undelayed =>
      refine follows.of_move keyed move rfl fun known harmless stage course shown => ?_
      obtain ⟨failed, seconds, rfl, -⟩ := shown
      refine ⟨_, tried ▸ course, ?_⟩
      simp [Shows, fits.2.1]

/-- Only its attempts, and whether it was put into the line and disturbed since, matter to a job in
what is written down. -/
theorem Follows.of_log {standing : Standing Time} {first second : List (Mark Time)}
    (follows : Follows verdict after config id now (queue, first) standing)
    (tried : trialsOf id second = trialsOf id first)
    (lined : (∃ mark ∈ first, mark.enqueues id) → ∃ mark ∈ second, mark.enqueues id)
    (undisturbed : (∃ mark ∈ first, mark.enqueues id) → ∀ workflow,
      Undisturbed id workflow second → Undisturbed id workflow first) :
    Follows verdict after config id now (queue, second) standing := by
  rcases standing with _ | ⟨job, place⟩
  · exact fun unissued => tried.trans (follows unissued)
  · obtain ⟨old, enqueued, loops⟩ := follows
    refine ⟨old, lined enqueued, fun untouched => ?_⟩
    obtain ⟨known, stage, course, shown⟩ := loops (undisturbed enqueued _ untouched)
    exact ⟨known, stage, tried ▸ course, shown⟩

/-- What is written down besides its attempts asks no more of a job. -/
theorem Follows.append {standing : Standing Time} {marks : List (Mark Time)}
    (follows : Follows verdict after config id now (queue, log) standing)
    (untried : trialsOf id (log ++ marks) = trialsOf id log) :
    Follows verdict after config id now (queue, log ++ marks) standing :=
  follows.of_log untried enqueued_append fun enqueued _ undisturbed =>
    (undisturbed.of_append enqueued).1

end Step

section Report

variable {queue next : Queue Time} {signals : List (Signal Time)} {log : List (Mark Time)}
  {job : Job} {attempt : Nat}

/-- The outcome of the attempt of a job in its slot goes on with its loop. -/
theorem Follows.outcome {operation : Operation} {changed : Job} {moved : Place Time}
    (follows : Follows verdict after config id now (queue, log) (some (job, .slot)))
    (keyed : Keyed queue) (move : Move (attending after now stamp) operation queue signals next)
    (same : changed.workflow = job.workflow)
    (untried : ∀ log, trialsOf id ((signals.filter (·.concerns id)).foldl
      ((attending after now stamp).receive next) log) = trialsOf id log)
    (current : ∀ budget, Course verdict (Rested after config) budget (trialsOf id log)
      (.trying job.attempts) → attempt = job.attempts)
    (loops : (queue.workflow? job.workflow).isSome → attempt = job.attempts →
      ∀ trials, Course verdict (Rested after config) (queue.budget job.workflow) trials
        (.tried attempt now) →
      ∃ stage, Course verdict (Rested after config) (queue.budget job.workflow) trials stage ∧
        Shows verdict after config now changed stage moved) :
    Follows verdict after config id now
      (next, signals.foldl ((attending after now stamp).receive next)
        (log ++ [.tried id (.ended attempt now)])) (some (changed, moved)) := by
  obtain ⟨old, enqueued, looping⟩ := follows
  have ended : ∃ mark ∈ log ++ [.tried id (.ended attempt now)], mark.enqueues id :=
    enqueued_append enqueued
  obtain ⟨marks, grown, -⟩ := attending_foldl after now stamp next signals
    (log ++ [.tried id (.ended attempt now)])
  refine ⟨Nat.lt_of_lt_of_le old move.issued.1, ?_, fun undisturbed => ?_⟩
  · rw [grown]
    exact enqueued_append ended
  · rw [same] at undisturbed
    obtain ⟨earlier, -, kept, budget⟩ := undisturbed.of_move keyed move ended
    obtain ⟨known, stage, course, -, rfl⟩ := looping (earlier.of_append enqueued).1
    obtain rfl := current _ course
    have tried : trialsOf id (signals.foldl ((attending after now stamp).receive next)
        (log ++ [.tried id (.ended job.attempts now)])) =
          trialsOf id log ++ [.ended job.attempts now] := by
      rw [trialsOf_foldl id after now stamp next signals rfl, untried]
      exact trialsOf_tried_self log _
    obtain ⟨stage, course, shown⟩ := loops known rfl _ (course.ended now)
    refine ⟨?_, stage, ?_, shown⟩
    · rw [same]
      exact kept ▸ known
    · rw [same, tried]
      exact budget ▸ course

/-- A report that takes a running job out of its slot goes on with the loop of the job. -/
theorem Passage.follows_report {last : Standing Time} (keyed : Keyed queue)
    (configured : queue.config = config)
    (move : Move (attending after now stamp) ((verdict attempt).report id) queue signals next)
    (passage : Passage (attending after now stamp) queue id ((verdict attempt).report id)
      (some (job, .slot)) (signals.filter (·.concerns id)) last)
    (running : job.status = .running) (out : last ≠ some (job, .slot))
    (current : ∀ budget, Course verdict (Rested after config) budget (trialsOf id log)
      (.trying job.attempts) → attempt = job.attempts)
    (follows : Follows verdict after config id now (queue, log) (some (job, .slot))) :
    Follows verdict after config id now
      (next, signals.foldl ((attending after now stamp).receive next)
        (log ++ [.tried id (.ended attempt now)])) last := by
  generalize sent : signals.filter (·.concerns id) = own at passage
  cases decided : verdict attempt with
  | success result =>
      rw [decided] at passage
      cases passage with
      | stay => exact absurd rfl out
      | discarded _ cancelled => exact absurd (running.symm.trans cancelled) nofun
      | succeeded =>
          refine follows.outcome keyed move rfl (sent ▸ fun log => trialsOf_told log _) current ?_
          rintro - rfl trials course
          exact ⟨_, course.succeeded decided, rfl, decided, rfl⟩
  | failure error =>
      rw [decided] at passage
      cases passage with
      | stay => exact absurd rfl out
      | discarded _ cancelled => exact absurd (running.symm.trans cancelled) nofun
      | gaveUp _ spent =>
          refine follows.outcome keyed move rfl (sent ▸ fun log => trialsOf_told log _) current ?_
          rintro known rfl trials course
          have used : ¬ (job.attempts : Int) < queue.budget job.workflow :=
            fun left => spent ⟨left, known⟩
          exact ⟨_, course.gaveUp decided used, error, rfl, decided, rfl⟩
      | postponed _ left known delay timed counted =>
          cases timed
          refine follows.outcome keyed move rfl (sent ▸ fun log => rfl) current ?_
          rintro - rfl trials course
          exact ⟨_, course.again decided left, now, _, rfl, configured ▸ delay, counted⟩
      -- the job is lost in the two cases that remain, but its loop would go on
      | undelayable _ left =>
          refine follows.outcome keyed move rfl (sent ▸ fun log => rfl) current ?_
          rintro - rfl trials course
          refine ⟨_, course.again decided left, ?_⟩
          simp [Shows, noteError, running]
      | unminded _ left =>
          refine follows.outcome keyed move rfl (sent ▸ fun log => rfl) current ?_
          rintro - rfl trials course
          exact ⟨_, course.again decided left, _, rfl⟩

/-- Nothing is asked of a job that was disturbed. -/
theorem Follows.of_disturbed {standing : Standing Time} {marks : List (Mark Time)}
    (old : id < queue.issued)
    (disturbed : ∀ job place, standing = some (job, place) →
      (∃ mark ∈ log, mark.enqueues id) ∧ ¬ Undisturbed id job.workflow log) :
    Follows verdict after config id now (queue, log ++ marks) standing := by
  obtain _ | ⟨job, place⟩ := standing
  · exact fun unissued => absurd old (Nat.not_lt.mpr unissued)
  · obtain ⟨enqueued, touched⟩ := disturbed job place rfl
    refine ⟨old, enqueued_append enqueued, fun undisturbed => ?_⟩
    exact (touched (undisturbed.of_append enqueued).1).elim

/-- A job that left its slot before its attempt ended was disturbed. -/
theorem Follows.disturbed {standing : Standing Time} {start : Time} (sound : Sound queue)
    (stands : queue.Stands id standing) (began : .began attempt start ∈ trialsOf id log)
    (unended : ∀ ended, .ended attempt ended ∉ trialsOf id log)
    (left : ∀ job, standing = some (job, .slot) → job.status ≠ .running)
    (follows : Follows verdict after config id now (queue, log) standing) :
    id < queue.issued ∧ ∀ job place, standing = some (job, place) →
      (∃ mark ∈ log, mark.enqueues id) ∧ ¬ Undisturbed id job.workflow log := by
  constructor
  · refine Nat.lt_of_not_le fun unissued => ?_
    obtain rfl := stands.unique (sound.unissued id unissued)
    rw [follows unissued] at began
    cases began
  · rintro job place rfl
    obtain ⟨-, enqueued, loops⟩ := follows
    refine ⟨enqueued, fun undisturbed => ?_⟩
    obtain ⟨-, stage, course, shown⟩ := loops undisturbed
    obtain ⟨later, within⟩ := course.underway began unended
    have unfinished : stage.done < stage.made := Nat.lt_of_lt_of_le later within
    rcases shown.cases stands.fits with ⟨rfl, running, -⟩ | ⟨-, since, rfl⟩ | ⟨-, rfl, -⟩ |
      ⟨-, rfl, -⟩
    · exact left job rfl running
    all_goals exact absurd unfinished (Nat.lt_irrefl _)

end Report

section Attended

variable {verdict : JobId → Nat → Verdict} {operation : Operation} {queue next : Queue Time}
  {signals : List (Signal Time)} {log : List (Mark Time)}
  {scene : Scene Time (List (Mark Time))} {attempt : Nat} {instant : Time}

/-- The jobs of a queue with a runner go through their loops. -/
structure Followed (verdict : JobId → Nat → Verdict)
    (after : Time → Number → Except Failure Time) (config : QueueConfig) (now : Time)
    (scene : Scene Time (List (Mark Time))) : Prop where
  sound : Sound scene.1
  keyed : Keyed scene.1
  configured : scene.1.config = config
  follows : ∀ id, ∃ standing, scene.1.Stands id standing ∧
    Follows (verdict id) after config id now scene standing

namespace Followed

theorem empty (now : Time) :
    Followed verdict after config now ((Queue.empty config : Queue Time), []) := by
  refine ⟨sound_empty config, ?_, rfl, fun id => ?_⟩
  · intro entry member
    cases member
  · exact ⟨none, (sound_empty config).unissued id (Nat.zero_le id), fun _ => rfl⟩

theorem mono (followed : Followed verdict after config now scene) (order : now ≤ later) :
    Followed verdict after config later scene := by
  refine ⟨followed.sound, followed.keyed, followed.configured, fun id => ?_⟩
  obtain ⟨standing, stands, follows⟩ := followed.follows id
  exact ⟨standing, stands, follows.mono order⟩

/-- The jobs go through their loops with another log if each one of them does. -/
theorem of_log {first second : List (Mark Time)}
    (followed : Followed verdict after config now (queue, first))
    (follows : ∀ id standing, queue.Stands id standing →
      Follows (verdict id) after config id now (queue, first) standing →
      Follows (verdict id) after config id now (queue, second) standing) :
    Followed verdict after config now (queue, second) := by
  refine ⟨followed.sound, followed.keyed, followed.configured, fun id => ?_⟩
  obtain ⟨standing, stands, loops⟩ := followed.follows id
  exact ⟨standing, stands, follows id standing stands loops⟩

theorem told (followed : Followed verdict after config now (queue, log)) (event : Event) :
    Followed verdict after config now (queue, log ++ [.told event]) :=
  followed.of_log fun _ _ _ follows => follows.append (trialsOf_told log event)

/-- That a job may be executed need not be told. -/
theorem of_execute {job : Job} {workflow : Definition}
    (followed : Followed verdict after config now (queue, log ++ [.told (.execute job workflow)])) :
    Followed verdict after config now (queue, log) := by
  refine followed.of_log fun id standing _ follows => ?_
  refine follows.of_log (trialsOf_told log _).symm ?_ fun _ _ undisturbed => undisturbed.append rfl
  rintro ⟨mark, member, enqueues⟩
  rcases List.mem_append.mp member with earlier | last
  · exact ⟨mark, earlier, enqueues⟩
  · obtain rfl := List.mem_singleton.mp last
    cases enqueues

/-- The jobs go through their loops after a move if each one of them does. -/
theorem of_move {noted : List (Mark Time)}
    (followed : Followed verdict after config now (queue, log))
    (move : Move (attending after now stamp) operation queue signals next)
    (follows : ∀ id before last, queue.Stands id before → next.Stands id last →
      Passage (attending after now stamp) queue id operation before
        (signals.filter (·.concerns id)) last →
      Follows (verdict id) after config id now (queue, log) before →
      Follows (verdict id) after config id now (next, noted) last) :
    Followed verdict after config now (next, noted) := by
  refine ⟨followed.sound.move move, followed.keyed.move move,
    move.config.trans followed.configured, fun id => ?_⟩
  obtain ⟨before, stands, loops⟩ := followed.follows id
  obtain ⟨last, passage, card⟩ := move.passes followed.sound stands
  have reached : next.Stands id last := ⟨card, passage.fits stands.fits⟩
  exact ⟨last, reached, follows id before last stands reached passage loops⟩

/-- The jobs go on with their loops in a move of an operation that reports no outcome. -/
theorem move (followed : Followed verdict after config now (queue, log))
    (move : Move (attending after now stamp) operation queue signals next)
    (unreported : ∀ id, ¬ operation.Reports id)
    (awake : ∀ id due, operation = .wake id → (id, due) ∈ queue.delayed → due ≤ now) :
    Followed verdict after config now
      (next, signals.foldl ((attending after now stamp).receive next) log) := by
  refine followed.of_move move fun id before last stands _ passage follows => ?_
  refine passage.follows followed.keyed move stands.fits (unreported id) ?_ follows
  rintro wakes job due rfl
  exact awake id due wakes (stands.mem_delayed.mpr ⟨job, rfl⟩)

/-- An attempt ends whose job has no record any more. -/
theorem ended_gone (followed : Followed verdict after config now (queue, log))
    (began : .tried id (.began attempt instant) ∈ log)
    (unended : ∀ ended, .tried id (.ended attempt ended) ∉ log)
    (gone : queue.job? id = none) :
    Followed verdict after config now (queue, log ++ [.tried id (.ended attempt now)]) := by
  refine followed.of_log fun other standing stands follows => ?_
  by_cases own : id = other
  · subst own
    obtain ⟨old, disturbed⟩ := follows.disturbed followed.sound stands (mem_trialsOf.mpr began)
      (fun ended member => unended ended (mem_trialsOf.mp member)) <| by
        rintro job rfl
        exact absurd (gone.symm.trans stands.job?) nofun
    exact .of_disturbed old disturbed
  · exact follows.append (trialsOf_tried_other log own _)

/-- The end of an attempt and the move that takes its job out of its slot. -/
theorem ended (followed : Followed verdict after config now (queue, log))
    (began : .tried id (.began attempt instant) ∈ log)
    (unended : ∀ ended, .tried id (.ended attempt ended) ∉ log)
    (move : Move (attending after now stamp) ((verdict id attempt).report id) queue signals next)
    (vacated : next.running = queue.running.filter (· != id)) :
    Followed verdict after config now
      (next, signals.foldl ((attending after now stamp).receive next)
        (log ++ [.tried id (.ended attempt now)])) := by
  have keyed : Keyed queue := followed.keyed
  have configured : queue.config = config := followed.configured
  refine followed.of_move move fun other before last stands reached passage follows => ?_
  by_cases own : id = other
  · subst own
    have tried : .began attempt instant ∈ trialsOf id log := mem_trialsOf.mpr began
    have untried : ∀ ended, .ended attempt ended ∉ trialsOf id log :=
      fun ended member => unended ended (mem_trialsOf.mp member)
    by_cases counts : ∃ job, before = some (job, .slot) ∧ job.status = .running
    · obtain ⟨job, rfl, running⟩ := counts
      refine passage.follows_report keyed configured move running ?_
        (fun _ course => course.trying_eq tried untried) follows
      rintro rfl
      have slot : id ∈ next.running := reached.mem_running.mpr ⟨job, rfl⟩
      simp [vacated] at slot
    · obtain ⟨old, disturbed⟩ := follows.disturbed followed.sound stands tried untried
        fun job slot running => counts ⟨job, slot, running⟩
      obtain ⟨marks, grown, -⟩ := attending_foldl after now stamp next signals
        (log ++ [.tried id (.ended attempt now)])
      rw [grown, List.append_assoc]
      refine .of_disturbed (Nat.lt_of_lt_of_le old move.issued.1) ?_
      rintro changed moved same
      obtain ⟨job, place, stood, kept⟩ := passage.workflow_eq old same
      exact kept ▸ disturbed job place stood
  · exact passage.follows keyed move stands.fits
      (fun reports => own (Verdict.only_reports _ id other reports).symm)
      (fun wakes => absurd wakes (Verdict.report_ne_wake _ id other))
      (follows.append (trialsOf_tried_other log own _))

end Followed

/-- Listeners that leave the jobs in their loops. -/
def Tactful (verdict : JobId → Nat → Verdict) (after : Time → Number → Except Failure Time)
    (config : QueueConfig) (now : Time)
    (hear : Event → Scene Time (List (Mark Time)) → Scene Time (List (Mark Time))) : Prop :=
  ∀ event scene, Followed verdict after config now (scene.1, scene.2 ++ [.told event]) →
    Followed verdict after config now (hear event scene)

namespace Tactful

variable {hear : Event → Scene Time (List (Mark Time)) → Scene Time (List (Mark Time))}
  {around : Surroundings Time (List (Mark Time))}
  (attends : around = (attending after now stamp).heardBy hear)

include attends

theorem heard (tactful : Tactful verdict after config now hear) {event : Event}
    (followed : Followed verdict after config now (queue, log ++ [.told event])) :
    Followed verdict after config now (around.hear event (queue, log)) := by
  subst attends
  exact tactful event (queue, log) followed

/-- What is told of a job is written down first, and then the listeners do what they like. -/
theorem told (tactful : Tactful verdict after config now hear) (event : Job → Event) {job : Job}
    (listed : queue.job? id = some job)
    (followed : Followed verdict after config now (queue, log ++ [.told (event job)])) :
    Followed verdict after config now (Scene.tell around event id (queue, log)) := by
  simp only [Scene.tell, listed]
  exact tactful.heard attends followed

theorem tell (tactful : Tactful verdict after config now hear) (event : Job → Event) (id : JobId)
    (followed : Followed verdict after config now scene) :
    Followed verdict after config now (scene.tell around event id) := by
  unfold Scene.tell
  split
  · exact tactful.heard attends (followed.told _)
  · exact followed

/-- An attempt begins before anyone hears that its job was started. -/
theorem started (followed : Followed verdict after config now (queue, log)) {rest : List JobId}
    {workflow : Definition} {job : Job} (line : queue.pending = id :: rest) (room : queue.hasRoom)
    (listed : queue.job? id = some job) (waiting : job.status = .pending)
    (known : queue.workflow? job.workflow = some workflow) (going : queue.stopping = false) :
    Followed verdict after config now
      ((edit id (·.start around.stamp) { queue with pending := rest }).occupy id,
        around.launch id workflow log ++ [.told (.started (job.start around.stamp))]) := by
  subst attends
  have move : Move (attending after now stamp) .stop queue _ _ :=
    .started line room listed waiting known (fun _ => rfl) going
  exact (followed.move move (fun _ => not_false) nofun).of_execute

theorem start (tactful : Tactful verdict after config now hear)
    (followed : Followed verdict after config now (queue, log)) {rest : List JobId}
    {workflow : Definition} {job : Job} (line : queue.pending = id :: rest) (room : queue.hasRoom)
    (listed : queue.job? id = some job) (waiting : job.status = .pending)
    (known : queue.workflow? job.workflow = some workflow) (going : queue.stopping = false) :
    Followed verdict after config now
      (Queue.start around id workflow ({ queue with pending := rest }, log)) := by
  have found : ((edit id (·.start around.stamp) { queue with pending := rest }).occupy id).job? id =
      some (job.start around.stamp) := job?_edit_self _ (fun _ => rfl) listed
  have runs : around.runsJobs = true := by rw [attends]; rfl
  unfold Queue.start
  simp only [runs, if_true, Scene.edit]
  apply tactful.tell attends
  exact tactful.told attends Event.started found
    (started attends followed line room listed waiting known going)

theorem deliver (tactful : Tactful verdict after config now hear)
    (followed : Followed verdict after config now scene)
    (told : ∀ signal ∈ signals, ∃ event, signal = .told event) :
    Followed verdict after config now (signals.foldl around.deliver scene) := by
  apply foldl_preserves around.deliver (Followed verdict after config now)
  · intro signal sent scene followed
    obtain ⟨event, rfl⟩ := told signal sent
    exact tactful.heard attends (followed.told event)
  · exact followed

/-- The jobs go on with their loops in a move of an operation that reports no outcome and wakes no
job, whatever is done when it is told of. -/
theorem move (tactful : Tactful verdict after config now hear)
    (followed : Followed verdict after config now (queue, log))
    (move : Move around operation queue signals next) (unreported : ∀ id, ¬ operation.Reports id)
    (sleeping : ∀ id, operation ≠ .wake id) :
    Followed verdict after config now (signals.foldl around.deliver (next, log)) := by
  have awake (id : JobId) (due : Time) (wakes : operation = .wake id) :
      (id, due) ∈ queue.delayed → due ≤ now := absurd wakes (sleeping id)
  have moved := followed.move (move.attending attends) unreported awake
  cases move with
  | started line room listed waiting known _ going =>
      have started := started attends followed line room listed waiting known going
      have runs : around.runsJobs = true := by rw [attends]; rfl
      simp only [runs, if_true, List.cons_append, List.nil_append, List.foldl_cons, List.foldl_nil]
      exact tactful.heard attends ((tactful.heard attends started).told _)
  | @cleaned _ age cutoff signals told =>
      have silent : Move (attending after now stamp) (.cleanup age) queue [] _ :=
        .cleaned cutoff [] (by simp)
      refine tactful.deliver attends (followed.move silent unreported awake) fun signal sent => ?_
      obtain ⟨count, rfl⟩ := told signal sent
      exact ⟨_, rfl⟩
  | released reports | discarded reports => exact absurd reports (unreported _)
  | succeeded | gaveUp | postponed | undelayable | unminded => exact absurd rfl (unreported _)
  | skipped | stopped => exact moved
  | forgotten | readmitted => exact absurd rfl (sleeping _)
  | _ => exact tactful.heard attends moved

theorem acts (tactful : Tactful verdict after config now hear)
    {first last : Scene Time (List (Mark Time))} (acts : Acts around operation first last)
    (unreported : ∀ id, ¬ operation.Reports id) (sleeping : ∀ id, operation ≠ .wake id)
    (followed : Followed verdict after config now first) :
    Followed verdict after config now last := by
  apply acts.preserves (Followed verdict after config now)
  · intro queue signals next log move followed
    exact tactful.move attends followed move unreported sleeping
  · intro queue id rest workflow job log line room listed waiting known _ going followed
    exact tactful.start attends followed line room listed waiting known going
  · exact followed

/-- What users do leaves the jobs in their loops. -/
theorem apply (tactful : Tactful verdict after config now hear) (byUser : operation.ByUser)
    (followed : Followed verdict after config now scene) :
    Followed verdict after config now (operation.apply around scene) := by
  refine tactful.acts attends (operation.acts followed.sound.fresh) (fun _ => byUser.not_reports)
    ?_ followed
  rintro id rfl
  exact byUser

theorem admitAll (tactful : Tactful verdict after config now hear)
    (followed : Followed verdict after config now scene) :
    Followed verdict after config now (Queue.admitAll around scene) := by
  have admits : Acts around .stop scene (Queue.admitAll around scene) := admitAll_acts scene
  exact tactful.acts attends admits (fun _ => not_false) nofun followed

/-- A job whose delay is over goes on with its loop. -/
theorem wake (tactful : Tactful verdict after config now hear)
    (followed : Followed verdict after config now (queue, log))
    (awake : ∀ due, (id, due) ∈ queue.delayed → due ≤ now) :
    Followed verdict after config now (Queue.wake around id (queue, log)) := by
  have moved {signals : List (Signal Time)} {next : Queue Time}
      (move : Move around (.wake id) queue signals next) :
      Followed verdict after config now
        (next, signals.foldl ((attending after now stamp).receive next) log) := by
    refine followed.move (move.attending attends) (fun _ => not_false) ?_
    rintro _ due ⟨⟩ armed
    exact awake due armed
  unfold Queue.wake
  split
  next armed =>
    dsimp only
    split
    next gone =>
      have gone : queue.job? id = none := gone
      exact moved (.forgotten (by simp [gone]))
    next job listed =>
      have listed : queue.job? id = some job := listed
      split
      next ended => exact moved (.forgotten (by simpa [listed] using ended))
      next waiting =>
        have waiting : job.status = .pending := by simpa using waiting
        have found : ((queue.undelay id).append id).job? id = some job := listed
        exact tactful.admitAll attends (tactful.told attends Event.readmitted found
          (moved (.readmitted armed listed waiting)))
  · exact followed

/-- The report of the outcome of an attempt goes on with the loop of its job. -/
theorem report (tactful : Tactful verdict after config now hear)
    (followed : Followed verdict after config now (queue, log))
    (began : .tried id (.began attempt instant) ∈ log)
    (unended : ∀ ended, .tried id (.ended attempt ended) ∉ log)
    {outcome : Scene Time (List (Mark Time))}
    (reported : Reported around ((verdict id attempt).report id) id queue
      (log ++ [.tried id (.ended attempt now)]) outcome) :
    Followed verdict after config now outcome := by
  have ended {signals : List (Signal Time)} {next : Queue Time}
      (move : Move around ((verdict id attempt).report id) queue signals next) :=
    followed.ended began unended (move.attending attends)
  cases reported with
  | missing gone => exact followed.ended_gone began unended gone
  | alone move vacated => exact ended move vacated
  | silent move vacated => exact tactful.admitAll attends (ended move vacated)
  | told move vacated => exact tactful.admitAll attends (tactful.heard attends (ended move vacated))
  | @minded _ due move vacated =>
      have minds (log : List (Mark Time)) : around.mind id due log = log := by rw [attends]; rfl
      rw [minds]
      exact tactful.admitAll attends (ended move vacated)

end Tactful

/-- Listeners that use the queue as users do leave the jobs in their loops, by induction on what
they do in turn. -/
theorem Attendant.tactful {around : Surroundings Time (List (Mark Time))}
    (attendant : Attendant after now around) :
    ∃ stamp hear, around = (attending after now stamp).heardBy hear ∧
      Tactful verdict after config now hear := by
  induction attendant with
  | mk stamp reaction byUser _ ih =>
      refine ⟨stamp, _, rfl, fun event scene followed => ?_⟩
      apply run_preserves (Followed verdict after config now)
      · intro use member scene followed
        obtain ⟨stamp, hear, attends, tactful⟩ := ih event _ use member
        exact tactful.apply attends (byUser event _ use member) followed
      · exact followed

/-- In every state of a queue with a runner the jobs go through their loops. -/
theorem Attended.followed (attended : Attended verdict after config now scene) :
    Followed verdict after config now scene := by
  induction attended with
  | fresh now => exact .empty now
  | used operation _ order attendant byUser followed =>
      obtain ⟨stamp, hear, attends, tactful⟩ := attendant.tactful
      exact tactful.apply attends byUser (followed.mono order)
  | @finished _ _ _ around _ _ _ _ order attendant underway unended followed =>
      obtain ⟨stamp, hear, attends, tactful⟩ := attendant.tactful
      exact tactful.report attends (followed.mono order) underway unended
        (Verdict.reported _ around _ _ _)
  | @woken now later scene around id due _ order attendant armed passed followed =>
      obtain ⟨stamp, hear, attends, tactful⟩ := attendant.tactful
      refine tactful.wake attends (followed.mono order) fun instant waits => ?_
      obtain ⟨standing, stands, -⟩ := followed.follows id
      obtain ⟨job, rfl⟩ := stands.mem_delayed.mp armed
      obtain ⟨_, same⟩ := stands.mem_delayed.mp waits
      cases same
      exact passed

theorem Attended.plainLoop {job : Job} (attended : Attended verdict after config now scene)
    (listed : scene.1.job? id = some job) (undisturbed : Undisturbed id job.workflow scene.2) :
    (scene.1.workflow? job.workflow).isSome ∧
      PlainLoop (verdict id) (Rested after config) (scene.1.budget job.workflow)
        (trialsOf id scene.2) job := by
  obtain ⟨standing, stands, follows⟩ := attended.followed.follows id
  obtain ⟨place, rfl⟩ := stands.of_listed listed
  obtain ⟨known, stage, course, shown⟩ := follows.2.2 undisturbed
  exact ⟨known, shown.plainLoop stands.fits course⟩

end Attended

end Loop

/-- The job belongs to some queue with a runner, and was not disturbed there. -/
def Undergoes (Time : Type) [Preorder Time] (verdict : Nat → Verdict) (budget : Int) (job : Job) :
    Prop :=
  ∃ (verdicts : JobId → Nat → Verdict) (after : Time → Number → Except Failure Time)
    (config : QueueConfig) (now : Time) (scene : Scene Time (List (Mark Time))) (id : JobId),
    Attended verdicts after config now scene ∧ scene.1.job? id = some job ∧
      Undisturbed id job.workflow scene.2 ∧ verdicts id = verdict ∧
      scene.1.budget job.workflow = budget

/-- A job of a queue with a runner goes through the plain retry loop as long as it is not disturbed,
also where listeners use the queue themselves. How the job ends depends on its verdicts and its
budget alone: not on the limit of the queue, on other jobs, on delays, or on the order in which
things happen. -/
theorem attended_plain_loop [Preorder Time] {verdict : JobId → Nat → Verdict}
    {after : Time → Number → Except Failure Time} {config : QueueConfig} {now : Time}
    {scene : Scene Time (List (Mark Time))} {id : JobId} {job : Job}
    (attended : Attended verdict after config now scene) (listed : scene.1.job? id = some job)
    (undisturbed : Undisturbed id job.workflow scene.2) :
    (scene.1.workflow? job.workflow).isSome ∧
      PlainLoop (verdict id) (Rested after config) (scene.1.budget job.workflow)
        (trialsOf id scene.2) job ∧
      ∀ other, Undergoes Time (verdict id) (scene.1.budget job.workflow) other →
        job.status.isTerminal → other.status.isTerminal →
        other.status = job.status ∧ other.attempts = job.attempts ∧ other.error = job.error ∧
          (job.status = .completed → other.result = job.result) := by
  obtain ⟨known, loop⟩ := attended.plainLoop listed undisturbed
  refine ⟨known, loop, ?_⟩
  rintro other ⟨verdicts, wait, limits, instant, elsewhere, number, attended, listed, undisturbed,
    alike, same⟩ done ended
  obtain ⟨-, twin⟩ := attended.plainLoop listed undisturbed
  rw [alike, same] at twin
  exact loop.same_fate twin done ended

def retriedConfig : QueueConfig where
  maxConcurrent := 1
  maxRetries := 3
  strategy := .fixed (.int 3) (.int 1)

/-- Every job succeeds with its second attempt. -/
def secondTry (_ : JobId) : Nat → Verdict
  | 1 => .failure (some "boom")
  | _ => .success (.int 7)

/-- A listener puts one more job into the line when a job is completed. -/
def followUp (now : Nat) : Event → Scene Nat (List (Mark Nat)) → List (Use Nat (List (Mark Nat)))
  | .completed _, _ => [⟨attending countOn now 0, .enqueue (.str "wf") {}⟩]
  | _, _ => []

def followingUp (now : Nat) : Surroundings Nat (List (Mark Nat)) :=
  (attending countOn now 0).heardBy fun event scene =>
    run (followUp now event scene) (scene.1, scene.2 ++ [.told event])

theorem followingUp_attendant (now : Nat) : Attendant countOn now (followingUp now) := by
  have queues {event : Event} {scene : Scene Nat (List (Mark Nat))}
      {use : Use Nat (List (Mark Nat))} (member : use ∈ followUp now event scene) :
      use = ⟨attending countOn now 0, .enqueue (.str "wf") {}⟩ := by
    cases event with
    | completed => exact List.mem_singleton.mp member
    | _ => cases member
  refine .mk 0 (followUp now) ?_ ?_
  · intro event scene use member
    obtain rfl := queues member
    exact trivial
  · intro event scene use member
    obtain rfl := queues member
    exact attending_attendant countOn now 0

/-- A job is put into the line, fails, is tried again a second later, and then succeeds. Another job
is put into the line when this is told. -/
def secondTryScene : Scene Nat (List (Mark Nat)) :=
  let started := (Operation.enqueue (.str "wf") {}).apply (followingUp 0)
    ((Operation.register { name := "wf", retries := some 2 }).apply (followingUp 0)
      (empty retriedConfig, []))
  let failed := (Operation.fail 0 (some "boom")).apply (followingUp 0)
    (started.1, started.2 ++ [.tried 0 (.ended 1 0)])
  let again := (Operation.wake 0).apply (followingUp 1) failed
  (Operation.complete 0 (.int 7)).apply (followingUp 1)
    (again.1, again.2 ++ [.tried 0 (.ended 2 1)])

theorem attended_secondTryScene : Attended secondTry countOn retriedConfig 1 secondTryScene := by
  have fresh : Attended secondTry countOn retriedConfig 0 (empty retriedConfig, []) := .fresh 0
  have known := fresh.used (.register { name := "wf", retries := some 2 }) le_rfl
    (followingUp_attendant 0) trivial
  have started := known.used (.enqueue (.str "wf") {}) le_rfl (followingUp_attendant 0) trivial
  have failed := started.report (followingUp_attendant 0) 0 1 0 (by decide +kernel)
    (by decide +kernel)
  have again : Attended secondTry countOn retriedConfig 1 _ :=
    .woken failed (Nat.zero_le 1) (followingUp_attendant 1) (show (0, 1) ∈ _ by decide +kernel)
      le_rfl
  exact again.report (followingUp_attendant 1) 0 2 1 (by decide +kernel) (by decide +kernel)

theorem undisturbed_secondTryScene : Undisturbed 0 "wf" secondTryScene.2 := by
  rw [← List.take_append_drop 1 secondTryScene.2]
  exact undisturbed_append (by decide +kernel) (by decide +kernel)

/-- The job that is tried again goes through its loop to a success. -/
theorem second_try_plain_loop :
    ∃ job, Attended secondTry countOn retriedConfig 1 secondTryScene ∧
      secondTryScene.1.job? 0 = some job ∧ Undisturbed 0 job.workflow secondTryScene.2 ∧
      job.attempts = 2 ∧ job.status = .completed ∧
      PlainLoop (secondTry 0) (Rested countOn retriedConfig)
        (secondTryScene.1.budget job.workflow) (trialsOf 0 secondTryScene.2) job := by
  have found : (secondTryScene.1.job? 0).map (fun job => (job.workflow, job.attempts, job.status)) =
      some ("wf", 2, .completed) := by
    decide +kernel
  obtain ⟨job, listed, same⟩ := Option.map_eq_some_iff.mp found
  obtain ⟨named, tried, completed⟩ : job.workflow = "wf" ∧ job.attempts = 2 ∧
      job.status = .completed := by
    simpa using same
  have undisturbed : Undisturbed 0 job.workflow secondTryScene.2 :=
    named ▸ undisturbed_secondTryScene
  exact ⟨job, attended_secondTryScene, listed, undisturbed, tried, completed,
    (attended_plain_loop attended_secondTryScene listed undisturbed).2.1⟩

end Orchestra.Queue
