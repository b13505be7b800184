import Orchestra.Proofs.Queue.RetryLoop

/-!
A queue with a runner.

The runner begins an attempt whenever the queue launches a job, and reports its outcome at some
later time. Users do what they like in between, also when they are told of an event, and delays wake
their jobs when they are over, or later. What is told and what is tried is written down.
-/

namespace Orchestra

variable {Time : Type}

/-- What is written down of a queue with a runner. -/
inductive Mark (Time : Type) where
  | told (event : Event)
  | tried (id : JobId) (trial : Queue.Trial Time)

/-- The job was put into the line. -/
def Mark.enqueues (id : JobId) : Mark Time → Bool
  | .told (.enqueued job) => job.id == id
  | _ => false

/-- The job was cancelled or queued again by hand, or its workflow was removed or replaced. -/
def Mark.disturbs (id : JobId) (workflow : String) : Mark Time → Bool
  | .told (.cancelled job) | .told (.retried job) => job.id == id
  | .told (.registered definition) | .told (.unregistered definition) =>
    definition.name == workflow
  | _ => false

namespace Queue

/-- The attempts of a job. -/
def trialsOf (id : JobId) (log : List (Mark Time)) : List (Trial Time) :=
  log.filterMap fun
    | .told _ => none
    | .tried other trial => if other = id then some trial else none

/-- The surroundings of a queue with a runner, for which every launch begins the next attempt. -/
def attending (after : Time → Number → Except Failure Time) (now : Time) (stamp : Stamp) :
    Surroundings Time (List (Mark Time)) where
  stamp
  clock := some now
  after
  runsJobs := true
  hear event scene := (scene.1, scene.2 ++ [.told event])
  launch id _ log := log ++ [.tried id (.began ((begun (trialsOf id log)).length + 1) now)]
  mind _ _ log := log

/-- How the runner reports the outcome of an attempt. -/
def Verdict.report (id : JobId) : Verdict → Operation
  | .success result => .complete id result
  | .failure error => .fail id error

theorem Verdict.only_reports (verdict : Verdict) (id : JobId) :
    ∀ other, (verdict.report id).Reports other → other = id := by
  cases verdict <;> exact fun _ reports => reports.symm

theorem Verdict.report_ne_wake (verdict : Verdict) (id other : JobId) :
    verdict.report id ≠ .wake other := by
  cases verdict <;> exact nofun

theorem Verdict.reported {σ : Type} (verdict : Verdict) (around : Surroundings Time σ) (id : JobId)
    (queue : Queue Time) (state : σ) :
    Reported around (verdict.report id) id queue state
      ((verdict.report id).apply around (queue, state)) := by
  cases verdict with
  | success result => exact complete_reported around id result queue state
  | failure error => exact fail_reported around id error queue state

/-- Users report no outcomes and end no delays. -/
def Operation.ByUser : Operation → Prop
  | .complete .. | .fail .. | .wake _ => False
  | _ => True

theorem Operation.ByUser.not_reports {operation : Operation} (byUser : operation.ByUser)
    {id : JobId} : ¬ operation.Reports id := by
  cases operation with
  | complete | fail => exact byUser.elim
  | _ => exact not_false

/-- The surroundings at a time of a queue with a runner, whose listeners use the queue in their turn
when they are told of an event. -/
inductive Attendant (after : Time → Number → Except Failure Time) (now : Time) :
    Surroundings Time (List (Mark Time)) → Prop where
  | mk (stamp : Stamp)
      (reaction : Event → Scene Time (List (Mark Time)) → List (Use Time (List (Mark Time))))
      (byUser : ∀ event scene, ∀ use ∈ reaction event scene, use.operation.ByUser)
      (attendant : ∀ event scene, ∀ use ∈ reaction event scene, Attendant after now use.around) :
      Attendant after now ((attending after now stamp).heardBy fun event scene =>
        run (reaction event scene) (scene.1, scene.2 ++ [.told event]))

/-- The states of a queue with a runner at a time. The outcome of each attempt of each job is given,
and everything else happens in any order and at any time. -/
inductive Attended [Preorder Time] (verdict : JobId → Nat → Verdict)
    (after : Time → Number → Except Failure Time) (config : QueueConfig) :
    Time → Scene Time (List (Mark Time)) → Prop where
  | fresh (now : Time) : Attended verdict after config now (empty config, [])
  | used {now later scene around} (operation : Operation)
      (attended : Attended verdict after config now scene) (order : now ≤ later)
      (attendant : Attendant after later around) (byUser : operation.ByUser) :
      Attended verdict after config later (operation.apply around scene)
  /-- An attempt that is under way ends, and its outcome is reported. -/
  | finished {now later scene around id attempt began}
      (attended : Attended verdict after config now scene) (order : now ≤ later)
      (attendant : Attendant after later around)
      (underway : .tried id (.began attempt began) ∈ scene.2)
      (unended : ∀ ended, .tried id (.ended attempt ended) ∉ scene.2) :
      Attended verdict after config later
        (((verdict id attempt).report id).apply around
          (scene.1, scene.2 ++ [.tried id (.ended attempt later)]))
  | woken {now later scene around id due} (attended : Attended verdict after config now scene)
      (order : now ≤ later) (attendant : Attendant after later around)
      (armed : (id, due) ∈ scene.1.delayed) (passed : due ≤ later) :
      Attended verdict after config later ((Operation.wake id).apply around scene)

/-- Since a job was put into the line, neither the job nor its workflow was touched by hand. -/
def Undisturbed (id : JobId) (workflow : String) (log : List (Mark Time)) : Prop :=
  ∀ before since, log = before ++ since → (∃ mark ∈ before, mark.enqueues id) →
    ∀ mark ∈ since, mark.disturbs id workflow = false

section Log

variable {after : Time → Number → Except Failure Time} {now : Time} {stamp : Stamp} {id : JobId}
  {queue : Queue Time}

/-- The moves of a queue with a runner are the same with any listeners. -/
theorem Move.attending {around : Surroundings Time (List (Mark Time))} {operation : Operation}
    {next : Queue Time} {signals : List (Signal Time)}
    {hear : Event → Scene Time (List (Mark Time)) → Scene Time (List (Mark Time))}
    (attends : around = (attending after now stamp).heardBy hear)
    (move : Move around operation queue signals next) :
    Move (attending after now stamp) operation queue signals next := by
  subst attends
  exact move.of_heardBy

@[simp] theorem trialsOf_told (log : List (Mark Time)) (event : Event) :
    trialsOf id (log ++ [.told event]) = trialsOf id log := by
  simp [trialsOf]

@[simp] theorem trialsOf_tried_self (log : List (Mark Time)) (trial : Trial Time) :
    trialsOf id (log ++ [.tried id trial]) = trialsOf id log ++ [trial] := by
  simp [trialsOf]

theorem trialsOf_tried_other (log : List (Mark Time)) {other : JobId} (different : other ≠ id)
    (trial : Trial Time) : trialsOf id (log ++ [.tried other trial]) = trialsOf id log := by
  simp [trialsOf, different]

theorem mem_trialsOf {log : List (Mark Time)} {trial : Trial Time} :
    trial ∈ trialsOf id log ↔ .tried id trial ∈ log := by
  simp only [trialsOf, List.mem_filterMap]
  constructor
  · rintro ⟨_ | ⟨other, trial⟩, member, same⟩
    · cases same
    · split at same <;> simp_all
  · intro member
    exact ⟨_, member, by simp⟩

/-- Only the signals that concern a job show in its attempts. -/
theorem trialsOf_foldl (id : JobId) (after : Time → Number → Except Failure Time) (now : Time)
    (stamp : Stamp) (queue : Queue Time) (signals : List (Signal Time))
    {first second : List (Mark Time)} (same : trialsOf id first = trialsOf id second) :
    trialsOf id (signals.foldl ((attending after now stamp).receive queue) first) =
      trialsOf id ((signals.filter (·.concerns id)).foldl
        ((attending after now stamp).receive queue) second) := by
  induction signals generalizing first second with
  | nil => exact same
  | cons signal rest ih =>
      have unconcerned : signal.concerns id = false →
          trialsOf id ((attending after now stamp).receive queue first signal) =
            trialsOf id first := by
        cases signal with
        | told event => exact fun _ => trialsOf_told first event
        | launched other =>
            intro unconcerned
            exact trialsOf_tried_other first (by simpa [Signal.concerns] using unconcerned) _
        | minded => exact fun _ => rfl
      have concerned : trialsOf id ((attending after now stamp).receive queue first signal) =
          trialsOf id ((attending after now stamp).receive queue second signal) := by
        cases signal with
        | told event => simpa [Surroundings.receive, attending] using same
        | launched other =>
            by_cases own : other = id
            · subst own
              simp [Surroundings.receive, attending, same]
            · simpa [Surroundings.receive, attending, trialsOf_tried_other _ own] using same
        | minded => exact same
      rw [List.foldl_cons, List.filter_cons]
      cases concerns : signal.concerns id with
      | false => exact ih ((unconcerned concerns).trans same)
      | true => exact ih concerned

theorem attending_receive (after : Time → Number → Except Failure Time) (now : Time)
    (stamp : Stamp) (queue : Queue Time) (signal : Signal Time) (log : List (Mark Time)) :
    ∃ marks, (attending after now stamp).receive queue log signal = log ++ marks ∧
      ∀ event, signal = .told event → .told event ∈ marks := by
  cases signal with
  | told event =>
      refine ⟨[.told event], rfl, ?_⟩
      rintro _ ⟨⟩
      exact List.mem_singleton_self _
  | launched other =>
      refine ⟨[.tried other _], rfl, ?_⟩
      intro event same
      cases same
  | minded =>
      refine ⟨[], (List.append_nil log).symm, ?_⟩
      intro event same
      cases same

/-- What is written down is only added to, and what is told is written down. -/
theorem attending_foldl (after : Time → Number → Except Failure Time) (now : Time)
    (stamp : Stamp) (queue : Queue Time) (signals : List (Signal Time)) (log : List (Mark Time)) :
    ∃ marks, signals.foldl ((attending after now stamp).receive queue) log = log ++ marks ∧
      ∀ event, .told event ∈ signals → .told event ∈ marks := by
  induction signals generalizing log with
  | nil =>
      refine ⟨[], (List.append_nil log).symm, ?_⟩
      intro event sent
      cases sent
  | cons signal rest ih =>
      obtain ⟨first, received, heard⟩ :=
        attending_receive after now stamp queue signal log
      obtain ⟨marks, grown, told⟩ := ih (log ++ first)
      refine ⟨first ++ marks, ?_, fun event sent => ?_⟩
      · rw [List.foldl_cons, received, grown, List.append_assoc]
      · rcases List.mem_cons.mp sent with same | later
        · exact List.mem_append_left _ (heard event same.symm)
        · exact List.mem_append_right _ (told event later)

theorem enqueued_append {log marks : List (Mark Time)}
    (enqueued : ∃ mark ∈ log, mark.enqueues id) : ∃ mark ∈ log ++ marks, mark.enqueues id := by
  obtain ⟨mark, member, enqueues⟩ := enqueued
  exact ⟨mark, List.mem_append_left _ member, enqueues⟩

theorem Undisturbed.of_append {workflow : String} {log marks : List (Mark Time)}
    (enqueued : ∃ mark ∈ log, mark.enqueues id)
    (undisturbed : Undisturbed id workflow (log ++ marks)) :
    Undisturbed id workflow log ∧ ∀ mark ∈ marks, mark.disturbs id workflow = false := by
  constructor
  · rintro before since rfl begins mark member
    refine undisturbed before (since ++ marks) (List.append_assoc ..) begins mark ?_
    exact List.mem_append_left _ member
  · exact undisturbed log marks rfl enqueued

/-- What disturbs nothing may be written down. -/
theorem Undisturbed.append {workflow : String} {log : List (Mark Time)} {mark : Mark Time}
    (undisturbed : Undisturbed id workflow log) (harmless : mark.disturbs id workflow = false) :
    Undisturbed id workflow (log ++ [mark]) := by
  rintro before since split lined last later
  rcases List.append_eq_append_iff.mp split with ⟨more, rfl, same⟩ | ⟨more, rfl, rfl⟩
  · have listed : last ∈ [mark] := same ▸ List.mem_append_right _ later
    obtain rfl := List.mem_singleton.mp listed
    exact harmless
  · rcases List.mem_append.mp later with earlier | listed
    · exact undisturbed before more rfl lined last earlier
    · obtain rfl := List.mem_singleton.mp listed
      exact harmless

/-- A job is undisturbed if nothing disturbs it after what was written down before it came. -/
theorem undisturbed_append {workflow : String} {first rest : List (Mark Time)}
    (unlined : ∀ mark ∈ first, mark.enqueues id = false)
    (untouched : ∀ mark ∈ rest, mark.disturbs id workflow = false) :
    Undisturbed id workflow (first ++ rest) := by
  rintro before since split ⟨lined, member, enqueues⟩ mark later
  rcases List.append_eq_append_iff.mp split with ⟨more, rfl, rfl⟩ | ⟨more, rfl, rfl⟩
  · exact untouched mark (List.mem_append_right _ later)
  · have early := unlined lined (List.mem_append_left _ member)
    exact absurd (early.symm.trans enqueues) Bool.false_ne_true

/-- The usual surroundings: nobody does anything there when told of an event. -/
theorem attending_attendant (after : Time → Number → Except Failure Time) (now : Time)
    (stamp : Stamp) : Attendant after now (attending after now stamp) :=
  .mk stamp (fun _ _ => []) (fun _ _ _ member => absurd member List.not_mem_nil)
    (fun _ _ _ member => absurd member List.not_mem_nil)

/-- An attempt that began and did not end, by what was written down of its job. -/
theorem Attended.report [Preorder Time] {verdict : JobId → Nat → Verdict} {config : QueueConfig}
    {scene : Scene Time (List (Mark Time))} (attended : Attended verdict after config now scene)
    {around : Surroundings Time (List (Mark Time))} (attendant : Attendant after now around)
    (id : JobId) (attempt : Nat) (start : Time)
    (began : .began attempt start ∈ trialsOf id scene.2)
    (unended : attempt ∉ closed (trialsOf id scene.2)) :
    Attended verdict after config now (((verdict id attempt).report id).apply around
      (scene.1, scene.2 ++ [.tried id (.ended attempt now)])) := by
  refine .finished attended le_rfl attendant (mem_trialsOf.mp began) fun ended member => ?_
  exact unended (mem_closed.mpr ⟨ended, mem_trialsOf.mpr member⟩)

end Log

section Workflows

variable {σ : Type} {around : Surroundings Time σ} {operation : Operation}
  {queue next : Queue Time} {signals : List (Signal Time)} {name : String}

/-- The workflows are listed by their names. -/
def Keyed (queue : Queue Time) : Prop :=
  ∀ entry ∈ queue.workflows, entry.2.name = entry.1

theorem Keyed.name_eq (keyed : Keyed queue) {workflow : Definition}
    (known : queue.workflow? name = some workflow) : workflow.name = name := by
  obtain ⟨before, since, listed, -⟩ := List.lookup_eq_some_iff.mp known
  exact keyed (name, workflow) (by simp [listed])

theorem mem_putWorkflow {workflow : Definition} {workflows : List (String × Definition)}
    {entry : String × Definition} (member : entry ∈ putWorkflow name workflow workflows) :
    entry = (name, workflow) ∨ entry ∈ workflows := by
  induction workflows with
  | nil => exact .inl (List.mem_singleton.mp member)
  | cons first rest ih =>
      unfold putWorkflow at member
      split at member
      next same =>
        rcases List.mem_cons.mp member with new | old
        · exact .inl (new.trans (by simpa using same))
        · exact .inr (List.mem_cons_of_mem _ old)
      · rcases List.mem_cons.mp member with old | later
        · exact .inr (old ▸ List.mem_cons_self)
        · exact (ih later).imp_right (List.mem_cons_of_mem _)

theorem lookup_putWorkflow_other {workflow : Definition} {other : String}
    (different : other ≠ name) (workflows : List (String × Definition)) :
    (putWorkflow name workflow workflows).lookup other = workflows.lookup other := by
  induction workflows with
  | nil => simp [putWorkflow, List.lookup_cons, beq_false_of_ne different]
  | cons first rest ih =>
      obtain ⟨known, definition⟩ := first
      unfold putWorkflow
      split
      next same =>
        have unlike : (other == known) = false := by
          simpa [beq_iff_eq.mp same] using different
        simp [List.lookup_cons, unlike]
      · simp [List.lookup_cons, ih]

theorem lookup_filter_other {other : String} (different : other ≠ name)
    (workflows : List (String × Definition)) :
    (workflows.filter fun entry => entry.1 != name).lookup other = workflows.lookup other := by
  induction workflows with
  | nil => rfl
  | cons first rest ih =>
      obtain ⟨known, definition⟩ := first
      by_cases same : known = name
      · simp [same, ih, List.lookup_cons, beq_false_of_ne different]
      · simp [same, List.lookup_cons, ih]

theorem Keyed.move (keyed : Keyed queue) (move : Move around operation queue signals next) :
    Keyed next := by
  cases move with
  | registered workflow =>
      intro entry member
      rcases mem_putWorkflow member with rfl | old
      · rfl
      · exact keyed entry old
  | unregistered known =>
      intro entry member
      exact keyed entry (List.mem_filter.mp member).1
  | _ => exact keyed

/-- A workflow stays as it is until its removal or its replacement is told. -/
theorem Move.workflow?_kept (move : Move around operation queue signals next)
    (keyed : Keyed queue)
    (kept : ∀ workflow, .told (.registered workflow) ∈ signals ∨
      .told (.unregistered workflow) ∈ signals → workflow.name ≠ name) :
    next.workflow? name = queue.workflow? name := by
  cases move with
  | registered workflow =>
      exact lookup_putWorkflow_other (kept workflow (.inl (by simp))).symm _
  | @unregistered _ _ removed workflow known =>
      have named := keyed.name_eq known
      exact lookup_filter_other (named ▸ kept workflow (.inr (by simp))).symm _
  | _ => rfl

theorem budget_eq {name : String} (config : next.config = queue.config)
    (known : next.workflow? name = queue.workflow? name) :
    next.budget name = queue.budget name := by
  simp only [budget, config, known]

end Workflows

section Disturbance

variable {after : Time → Number → Except Failure Time} {now : Time} {stamp : Stamp} {id : JobId}
  {operation : Operation} {queue next : Queue Time} {signals : List (Signal Time)}
  {log : List (Mark Time)}

/-- A job that is not disturbed by a move keeps its workflow and its budget. -/
theorem Undisturbed.of_move {name : String} (keyed : Keyed queue)
    (move : Move (attending after now stamp) operation queue signals next)
    (enqueued : ∃ mark ∈ log, mark.enqueues id)
    (undisturbed : Undisturbed id name
      (signals.foldl ((attending after now stamp).receive next) log)) :
    Undisturbed id name log ∧
      (∀ event, .told event ∈ signals → (Mark.told event : Mark Time).disturbs id name = false) ∧
      next.workflow? name = queue.workflow? name ∧ next.budget name = queue.budget name := by
  obtain ⟨marks, grown, told⟩ := attending_foldl after now stamp next signals log
  obtain ⟨earlier, untouched⟩ := (grown ▸ undisturbed).of_append enqueued
  have harmless : ∀ event, .told event ∈ signals →
      (Mark.told event : Mark Time).disturbs id name = false :=
    fun event sent => untouched _ (told event sent)
  have known : next.workflow? name = queue.workflow? name := by
    refine move.workflow?_kept keyed fun workflow sent => ?_
    rcases sent with sent | sent
    all_goals simpa [Mark.disturbs] using harmless _ sent
  exact ⟨earlier, harmless, known, budget_eq move.config known⟩

end Disturbance

end Queue

end Orchestra
