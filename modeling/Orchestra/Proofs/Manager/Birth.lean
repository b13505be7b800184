import Orchestra.Proofs.Manager.Creation
import Orchestra.Proofs.Queue.Runner

/-!
What a job keeps from its making to its end.

A job is made of a workflow, at a depth of its cascade, and after a change that a workflow made or
after none. A register notes this for every job. No operation of a queue changes an entry, and every
attempt that is launched is one of the workflow of its job.
-/

namespace Orchestra

open Queue Routing

variable {Time : Type}

/-- What a job keeps: its workflow, its depth, and the workflow whose change it was made after. -/
structure Birth where
  workflow : String
  depth : Int
  source : Value

/-- What of the record of a job no operation changes. -/
def Job.title (job : Job) : JobId × String × Context :=
  (job.id, job.workflow, job.context)

namespace Birth

/-- The context of a job, which names the workflow of the job once an attempt has begun. -/
structure Suits (birth : Birth) (context : Context) : Prop where
  depth : context.cascade.depth = .int birth.depth
  source : context.trigger.sourceWorkflow = birth.source
  named : context.cascade.sourceWorkflow = .null ∨
    context.cascade.sourceWorkflow = .str birth.workflow

/-- The record of a job. -/
structure Fits (birth : Birth) (job : Job) : Prop where
  workflow : job.workflow = birth.workflow
  named : birth.workflow ≠ ""
  context : birth.Suits job.context

theorem Fits.of_title {birth : Birth} {job other : Job} (fits : birth.Fits other)
    (same : job.title = other.title) : birth.Fits job := by
  simp only [Job.title, Prod.mk.injEq] at same
  obtain ⟨-, workflow, context⟩ := same
  exact ⟨workflow.trans fits.workflow, fits.named, context ▸ fits.context⟩

end Birth

/-- What the records and the launched attempts of a queue are according to a register. -/
structure Listed (births : JobId → Birth) (scene : Scene Time (List Attempt)) : Prop where
  keyed : Keyed scene.1
  jobs : ∀ job ∈ scene.1.jobs, job.id < scene.1.issued ∧ (births job.id).Fits job
  launched : ∀ id workflow, .launched id workflow ∈ scene.2 →
    id < scene.1.issued ∧ workflow.name = (births id).workflow

/-- Every workflow has a name that says something. -/
def Named (queue : Queue Time) : Prop :=
  ∀ entry ∈ queue.workflows, entry.1 ≠ ""

/-- A list with one entry for all jobs that are not made yet. -/
def entered {α : Type} (entries : JobId → α) (issued : Nat) (entry : α) (id : JobId) : α :=
  if id < issued then entries id else entry

theorem entered_old {α : Type} {entries : JobId → α} {issued : Nat} {entry : α} {id : JobId}
    (made : id < issued) : entered entries issued entry id = entries id :=
  if_pos made

theorem entered_new {α : Type} {entries : JobId → α} {issued : Nat} {entry : α} {id : JobId}
    (unmade : issued ≤ id) : entered entries issued entry id = entry :=
  if_neg (Nat.not_lt.mpr unmade)

/-- A register that goes on with entries of one depth and one source. -/
structure Continues (births later : JobId → Birth) (issued : Nat) (depth : Int) (source : Value) :
    Prop where
  old : ∀ id, id < issued → later id = births id
  depth : ∀ id, issued ≤ id → (later id).depth = depth
  source : ∀ id, issued ≤ id → (later id).source = source

/-- An operation after which the register goes on: jobs of one depth and one source were made. -/
structure Enters (depth : Int) (source : Value) (births later : JobId → Birth)
    (before after : Scene Time (List Attempt)) : Prop where
  continues : Continues births later before.1.issued depth source
  listed : Listed later after
  named : Named after.1
  issued : before.1.issued ≤ after.1.issued
  underway : ∀ id rest, .underway id rest ∈ after.2 → .underway id rest ∈ before.2

namespace Queue

section Moves

variable {σ : Type} {around : Surroundings Time σ} {operation : Operation}
  {queue next : Queue Time} {signals : List (Signal Time)} {births : JobId → Birth}

theorem titles_edit {id : JobId} {change : Job → Job} (same : ∀ job, (change job).title = job.title)
    (queue : Queue Time) : (queue.edit id change).jobs.map Job.title = queue.jobs.map Job.title := by
  simp only [edit, List.map_map]
  refine List.map_congr_left fun job _ => ?_
  simp only [Function.comp]
  split
  · exact same job
  · rfl

/-- A move makes a job, or it leaves no titles but those that were there. -/
theorem Move.titles (move : Move around operation queue signals next) :
    next.issued = queue.issued + 1 ∨
      next.issued = queue.issued ∧ next.jobs.map Job.title ⊆ queue.jobs.map Job.title := by
  have edited : ∀ {id : JobId} {change : Job → Job} {queue : Queue Time},
      (∀ job, (change job).title = job.title) →
        (queue.edit id change).jobs.map Job.title ⊆ queue.jobs.map Job.title := by
    intro id change queue same
    rw [titles_edit same]
    exact List.Subset.refl _
  cases move with
  | enqueued => exact .inl rfl
  | cleaned => exact .inr ⟨rfl, (List.filter_sublist.map _).subset⟩
  | started | refused | cancelledRunning | cancelledWaiting | renewed | discarded | succeeded
  | undelayable =>
      exact .inr ⟨rfl, edited fun _ => rfl⟩
  | gaveUp | postponed | unminded =>
      exact .inr ⟨rfl, List.Subset.trans (edited fun _ => rfl) (edited fun _ => rfl)⟩
  | _ => exact .inr ⟨rfl, List.Subset.refl _⟩

/-- An attempt is launched with the workflow of its job. -/
theorem Move.launches (move : Move around operation queue signals next) (keyed : Keyed queue)
    {id : JobId} {workflow : Definition} (launched : .launched id workflow ∈ signals) :
    ∃ job ∈ queue.jobs, job.id = id ∧ workflow.name = job.workflow := by
  cases move with
  | @started _ _ other rest definition job line room listed waiting known timed =>
      have own : id = other ∧ workflow = definition := by
        cases runs : around.runsJobs <;> simp_all
      obtain ⟨rfl, rfl⟩ := own
      exact ⟨job, List.mem_of_find?_eq_some listed, job?_id listed, keyed.name_eq known⟩
  | cleaned _ _ told =>
      obtain ⟨_, same⟩ := told _ launched
      cases same
  | _ => simp at launched

end Moves

section Quiet

variable {moment : Moment Time} {operation : Operation} {queue next : Queue Time}
  {before after : Scene Time (List Attempt)} {signals : List (Signal Time)}
  {births : JobId → Birth}

theorem mem_receive {state : List Attempt} {attempt : Attempt}
    (member : attempt ∈ signals.foldl (moment.around.receive queue) state) :
    attempt ∈ state ∨
      ∃ id workflow, .launched id workflow ∈ signals ∧ attempt = .launched id workflow := by
  induction signals generalizing state with
  | nil => exact .inl member
  | cons signal rest ih =>
      rcases ih member with old | ⟨id, workflow, sent, same⟩
      · cases signal with
        | told | minded => exact .inl old
        | launched id workflow =>
            refine (List.mem_append.mp old).imp_right fun new => ?_
            exact ⟨id, workflow, List.mem_cons_self, List.mem_singleton.mp new⟩
      · exact .inr ⟨id, workflow, List.mem_cons_of_mem _ sent, same⟩

theorem Moves.issued_le (moves : Moves moment.around operation before after) :
    before.1.issued ≤ after.1.issued :=
  moves.preserves (fun scene => before.1.issued ≤ scene.1.issued)
    (fun _ move grown => Nat.le_trans grown move.issued.1) (Nat.le_refl _)

theorem Moves.underway (moves : Moves moment.around operation before after) (id : JobId)
    (rest : Running) (member : .underway id rest ∈ after.2) : .underway id rest ∈ before.2 := by
  revert member
  refine moves.preserves (fun scene => .underway id rest ∈ scene.2 → .underway id rest ∈ before.2)
    (fun state _ kept member => ?_) fun member => member
  rcases mem_receive member with old | ⟨_, _, _, same⟩
  · exact kept old
  · cases same

/-- As long as no job is made, a queue keeps to its register. -/
theorem Moves.listed (moves : Moves moment.around operation before after)
    (listed : Listed births before) (same : after.1.issued = before.1.issued) :
    Listed births after := by
  induction moves with
  | refl => exact listed
  | @step queue next signals state last move rest ih =>
      have grown := rest.issued_le
      rcases move.titles with more | ⟨kept, titles⟩
      · have more : next.issued = queue.issued + 1 := more
        have same : last.1.issued = queue.issued := same
        have grown : next.issued ≤ last.1.issued := grown
        omega
      refine ih ⟨listed.keyed.move move, fun job member => ?_, fun id workflow member => ?_⟩
        (same.trans kept.symm)
      · obtain ⟨old, found, title⟩ := List.mem_map.mp (titles (List.mem_map_of_mem member))
        have own : old.id = job.id := congrArg Prod.fst title
        have fits := listed.jobs old found
        rw [own] at fits
        exact ⟨kept ▸ fits.1, fits.2.of_title title.symm⟩
      · show id < next.issued ∧ _
        rw [kept]
        rcases mem_receive member with old | ⟨other, definition, sent, same⟩
        · exact listed.launched id workflow old
        · cases same
          obtain ⟨job, found, rfl, named⟩ := move.launches listed.keyed sent
          exact ⟨(listed.jobs job found).1, named.trans (listed.jobs job found).2.workflow⟩

end Quiet

end Queue

section Entries

variable {births later last : JobId → Birth} {first second third : Scene Time (List Attempt)}
  {depth : Int} {source : Value} {birth : Birth} {issued : Nat}

theorem entered_continues (births : JobId → Birth) (issued : Nat) (birth : Birth) :
    Continues births (entered births issued birth) issued birth.depth birth.source where
  old _ made := entered_old made
  depth _ unmade := congrArg Birth.depth (entered_new unmade)
  source _ unmade := congrArg Birth.source (entered_new unmade)

/-- Entries of jobs that are not made yet do not show. -/
theorem Listed.continued (listed : Listed births first)
    (continues : Continues births later first.1.issued depth source) : Listed later first where
  keyed := listed.keyed
  jobs job member := by
    obtain ⟨made, fits⟩ := listed.jobs job member
    exact ⟨made, continues.old _ made ▸ fits⟩
  launched id workflow member := by
    obtain ⟨made, named⟩ := listed.launched id workflow member
    exact ⟨made, continues.old _ made ▸ named⟩

theorem Enters.trans (before : Enters depth source births later first second)
    (after : Enters depth source later last second third) :
    Enters depth source births last first third where
  continues := by
    refine ⟨fun id made => ?_, fun id unmade => ?_, fun id unmade => ?_⟩
    · exact (after.continues.old id (Nat.lt_of_lt_of_le made before.issued)).trans
        (before.continues.old id made)
    all_goals rcases Nat.lt_or_ge id second.1.issued with made | still
    · exact after.continues.old id made ▸ before.continues.depth id unmade
    · exact after.continues.depth id still
    · exact after.continues.old id made ▸ before.continues.source id unmade
    · exact after.continues.source id still
  listed := after.listed
  named := after.named
  issued := Nat.le_trans before.issued after.issued
  underway id rest member := before.underway id rest (after.underway id rest member)

theorem Enters.refl (birth : Birth) (listed : Listed births first) (named : Named first.1) :
    Enters birth.depth birth.source births (entered births first.1.issued birth) first first where
  continues := entered_continues births first.1.issued birth
  listed := listed.continued (entered_continues births first.1.issued birth)
  named := named
  issued := Nat.le_refl _
  underway _ _ member := member

/-- An operation that makes no job. -/
theorem Enters.of_moves {moment : Moment Time} {operation : Operation} (birth : Birth)
    (listed : Listed births first) (moves : Moves moment.around operation first second)
    (same : second.1.issued = first.1.issued) (named : Named second.1) :
    Enters birth.depth birth.source births (entered births first.1.issued birth) first second where
  continues := entered_continues births first.1.issued birth
  listed := by
    have continues := entered_continues births second.1.issued birth
    exact same ▸ (moves.listed listed same).continued continues
  named := named
  issued := moves.issued_le
  underway := moves.underway

end Entries

section Operations

variable {births : JobId → Birth} {moment : Moment Time} {scene after : Scene Time (List Attempt)}
  {depth : Int} {source : Value} {context : Context}

/-- What keeps the roster makes no job and leaves the workflows as they are. -/
theorem Keeps.enters {operation : Operation} (birth : Birth) (keeps : Keeps scene after)
    (listed : Listed births scene) (named : Named scene.1)
    (moves : Moves moment.around operation scene after) :
    Enters birth.depth birth.source births (entered births scene.1.issued birth) scene after := by
  refine .of_moves birth listed moves (congrArg Roster.issued keeps.roster) ?_
  have same : after.1.workflows = scene.1.workflows := congrArg Roster.workflows keeps.roster
  rwa [Named, same]

theorem Named.of_known {queue : Queue Time} {name : String} {workflow : Definition}
    (named : Named queue) (known : queue.workflow? name = some workflow) : name ≠ "" := by
  obtain ⟨before, since, listed, -⟩ := List.lookup_eq_some_iff.mp known
  exact named (name, workflow) (by simp [listed])

/-- A new job in the line is entered under its number. -/
theorem Listed.lined {queue : Queue Time} {state : List Attempt} {birth : Birth}
    (listed : Listed births (queue, state)) (some_name : birth.workflow ≠ "")
    (suits : birth.Suits context) (stamp : Stamp) :
    Listed (entered births queue.issued birth)
      (queue.lined birth.workflow context stamp, state) := by
  have before := listed.continued (entered_continues births queue.issued birth)
  refine ⟨before.keyed, fun job member => ?_, fun id workflow member => ?_⟩
  · rcases List.mem_append.mp member with old | new
    · exact (before.jobs job old).imp_left Nat.lt_succ_of_lt
    · obtain rfl := List.mem_singleton.mp new
      have own : entered births queue.issued birth queue.issued = birth :=
        entered_new (Nat.le_refl _)
      refine ⟨Nat.lt_succ_self _, ?_⟩
      show Birth.Fits (entered births queue.issued birth queue.issued) _
      rw [own]
      exact ⟨rfl, some_name, suits⟩
  · exact (before.launched id workflow member).imp_left Nat.lt_succ_of_lt

/-- A job is entered with the name of a workflow that is known. -/
theorem enqueue_enters (sound : Sound scene.1) (listed : Listed births scene)
    (named : Named scene.1) (birth : Birth) (suits : birth.Suits context) :
    Enters birth.depth birth.source births (entered births scene.1.issued birth) scene
      (enqueue moment.around birth.workflow context scene).2 := by
  obtain ⟨queue, state⟩ := scene
  have idle : Enters birth.depth birth.source births (entered births queue.issued birth)
      (queue, state) (queue, state) := .refl birth listed named
  rcases enqueue_cases moment birth.workflow context queue state with same | same
  · rwa [same]
  cases known : queue.workflow? birth.workflow with
  | none =>
      have same : (enqueue moment.around birth.workflow context (queue, state)).2 =
          (queue, state) := by
        unfold enqueue
        split
        · rfl
        · simp [known]
      rwa [same]
  | some workflow =>
      rw [same]
      have settles : Settles (Scales.plain queue)
          (queue.lined birth.workflow context moment.stamp, state)
          (admitAll moment.around (queue.lined birth.workflow context moment.stamp, state)) :=
        admitAll_settles (distinct_lined sound birth.workflow context moment.stamp)
      have moves : Moves moment.around .stop
          (queue.lined birth.workflow context moment.stamp, state) _ :=
        admitAll_moves around_quiet _
      have workflows : (admitAll moment.around
          (queue.lined birth.workflow context moment.stamp, state)).1.workflows =
          queue.workflows := congrArg Roster.workflows settles.roster
      exact {
        continues := entered_continues births queue.issued birth
        listed := moves.listed (listed.lined (named.of_known known) suits moment.stamp)
          (congrArg Roster.issued settles.roster)
        named := by rwa [Named, workflows]
        issued := Nat.le_trans (Nat.le_succ _) moves.issued_le
        underway := moves.underway }

/-- By induction on the workflows that are looked at. -/
theorem enqueueFitting_enters (fits : Definition → Except Failure Bool)
    (suits : ∀ name, Birth.Suits ⟨name, depth, source⟩ context)
    (workflows : List (String × Definition)) (sound : Sound scene.1)
    (listed : Listed births scene) (named : Named scene.1) :
    ∃ later, Enters depth source births later scene
      (enqueueFitting moment.around fits context workflows scene).2 := by
  induction workflows generalizing scene births with
  | nil => exact ⟨_, .refl ⟨"", depth, source⟩ listed named⟩
  | cons entry rest ih =>
      unfold enqueueFitting
      split
      · exact ⟨_, .refl ⟨"", depth, source⟩ listed named⟩
      · exact ih sound listed named
      · have first : Enters depth source births _ scene
            (enqueue moment.around entry.2.name context scene).2 :=
          enqueue_enters sound listed named ⟨entry.2.name, depth, source⟩ (suits entry.2.name)
        have creates : Creates (.plain scene.1) context scene
            (enqueue moment.around entry.2.name context scene).2 :=
          enqueue_creates sound entry.2.name context
        have sound := creates.sound
        split
        next failure last refused =>
          rw [refused] at first
          exact ⟨_, first⟩
        next id last made =>
          rw [made] at first sound
          obtain ⟨later, after⟩ := ih sound first.listed first.named
          exact ⟨later, first.trans after⟩

theorem enqueueValue_enters (sound : Sound scene.1) (listed : Listed births scene)
    (named : Named scene.1) (name : Value)
    (suits : ∀ name, Birth.Suits ⟨name, depth, source⟩ context) :
    ∃ later, Enters depth source births later scene
      (enqueueValue moment.around name context scene).2 := by
  unfold enqueueValue
  split
  next name => exact ⟨_, enqueue_enters sound listed named ⟨name, depth, source⟩ (suits name)⟩
  · split <;> exact ⟨_, .refl ⟨"", depth, source⟩ listed named⟩

/-- A change starts jobs of the next depth and under its source, or that depth is beyond the limit
and it starts nothing. -/
theorem startOnChange_enters (moment : Moment Time) (maxDepth : Int) (sound : Sound scene.1)
    (listed : Listed births scene) (named : Named scene.1) (change : Change)
    {cascade : Option CascadeInfo} (next : nextDepth cascade = .ok (.int depth)) :
    (maxDepth < depth ∧ startOnChange moment.around (.int maxDepth) change cascade scene =
        (.error (.cascadeTooDeep (.int depth) (.int maxDepth)), scene)) ∨
      depth ≤ maxDepth ∧ ∃ later,
        Enters depth ((cascade.map CascadeInfo.sourceWorkflow).getD .null) births later scene
          (startOnChange moment.around (.int maxDepth) change cascade scene).2 := by
  unfold startOnChange
  rw [admittedDepth_eq next]
  by_cases deep : maxDepth < depth
  · simp [deep]
  · rw [if_neg deep]
    have suits : ∀ name, Birth.Suits
        ⟨name, depth, (cascade.map CascadeInfo.sourceWorkflow).getD .null⟩
        (change.context ((cascade.map CascadeInfo.sourceWorkflow).getD .null) (.int depth)) :=
      fun _ => ⟨rfl, rfl, .inl rfl⟩
    exact .inr ⟨Int.not_lt.mp deep,
      enqueueFitting_enters change.fits suits _ sound listed named⟩

/-- A use of the queue that puts nothing into the line makes no job. -/
theorem apply_enters (birth : Birth) (sound : Sound scene.1) (listed : Listed births scene)
    (named : Named scene.1) (operation : Operation)
    (other : ∀ name context, operation ≠ .enqueue name context) :
    Enters birth.depth birth.source births (entered births scene.1.issued birth) scene
      (operation.apply moment.around scene) := by
  have moves : Moves moment.around operation scene (operation.apply moment.around scene) :=
    operation.moves around_quiet sound.fresh
  have registered : ∀ workflow : Definition,
      (register moment.around workflow scene).2.1.issued = scene.1.issued ∧
        Named (register moment.around workflow scene).2.1 := by
    intro workflow
    unfold register
    split
    · exact ⟨rfl, named⟩
    next some_name =>
      refine ⟨rfl, fun entry member => ?_⟩
      rcases mem_putWorkflow member with rfl | old
      · simpa using some_name
      · exact named entry old
  cases operation with
  | enqueue name context => exact (other name context rfl).elim
  | complete id result =>
      have settles : Settles (.plain scene.1) scene (complete moment.around id result scene) :=
        complete_settles sound.distinct result
      exact settles.toKeeps.enters birth listed named moves
  | fail id error =>
      have settles : Settles (.plain scene.1) scene (fail moment.around id error scene).2 :=
        fail_settles sound.distinct rfl error
      exact settles.toKeeps.enters birth listed named moves
  | wake id => exact (wake_keeps sound.distinct id).enters birth listed named moves
  | cancel id => exact (cancel_keeps id).enters birth listed named moves
  | retry id => exact (retry_keeps sound.distinct id).enters birth listed named moves
  | stop => exact .of_moves birth listed moves rfl named
  | register workflow =>
      exact .of_moves birth listed moves (registered workflow).1 (registered workflow).2
  | registerValue data =>
      revert moves
      simp only [Operation.apply, registerValue]
      split
      · split
        · exact fun moves => .of_moves birth listed moves (registered _).1 (registered _).2
        · exact fun moves => .of_moves birth listed moves rfl named
      · exact fun moves => .of_moves birth listed moves rfl named
  | unregister name =>
      revert moves
      simp only [Operation.apply, unregister]
      split
      · exact fun moves => .of_moves birth listed moves rfl named
      · exact fun moves => .of_moves birth listed moves rfl fun entry member =>
          named entry (List.mem_filter.mp member).1
  | cleanup age =>
      have kept : (cleanup moment.around age scene).2.1.issued = scene.1.issued ∧
          (cleanup moment.around age scene).2.1.workflows = scene.1.workflows := by
        unfold cleanup
        split
        · exact ⟨rfl, rfl⟩
        · split
          · exact ⟨rfl, rfl⟩
          · simp only [dropStale]
            split <;> exact ⟨rfl, rfl⟩
      refine .of_moves birth listed moves kept.1 ?_
      show ∀ entry ∈ (cleanup moment.around age scene).2.1.workflows, entry.1 ≠ ""
      rwa [kept.2]

end Operations

end Orchestra
