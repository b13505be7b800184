import Orchestra.Proofs.Execution.Reporting
import Orchestra.Proofs.Manager.Birth
import Orchestra.Proofs.Manager.Ending

/-!
Where the jobs of a manager come from.

A job that was started from outside begins a cascade. A job that was started by a change which an
attempt of another job made stands one step deeper than that one and names its workflow, up to the
limit of the cascade. Beyond the limit nothing is started, and the step that made the change
succeeds all the same.
-/

namespace Orchestra

open Queue Routing Execution

variable {Time : Type}

/-- Jobs are started by hand, after changes from outside, deliveries and schedules; whoever asks
puts no job into the queue, and claims no place in a cascade. -/
def Request.Plain : Request → Prop
  | .use (.enqueue ..) | .change _ (some _) => False
  | _ => True

theorem Request.Plain.exact {request : Request} (plain : request.Plain) : request.Exact := by
  cases request with
  | use operation =>
      cases operation with
      | enqueue => exact plain.elim
      | _ => trivial
  | change news cascade =>
      cases cascade with
      | none => trivial
      | some => exact plain.elim
  | _ => trivial

/-- What is asked for from outside makes jobs at the beginning of cascades. -/
theorem perform_enters {births : JobId → Birth} {scene : Scene Time (List Attempt)}
    (moment : Moment Time) (maxDepth : Int) (sound : Sound scene.1) (listed : Listed births scene)
    (named : Named scene.1) {request : Request} (plain : request.Plain) :
    ∃ later, Enters 0 .null births later scene (request.perform moment.around maxDepth scene) := by
  cases request with
  | use operation =>
      refine ⟨_, apply_enters ⟨"", 0, .null⟩ sound listed named operation ?_⟩
      rintro name context rfl
      exact plain
  | start name data =>
      exact enqueueValue_enters sound listed named name fun _ => ⟨rfl, rfl, .inl rfl⟩
  | change news cascade =>
      cases cascade with
      | some => exact plain.elim
      | none =>
          have next : nextDepth none = .ok (.int 0) := rfl
          rcases startOnChange_enters moment maxDepth sound listed named news next with
            ⟨-, same⟩ | ⟨-, entered⟩
          · rw [Request.perform, same]
            exact ⟨_, .refl ⟨"", 0, .null⟩ listed named⟩
          · exact entered
  | deliver delivery =>
      have suits : ∀ name, Birth.Suits ⟨name, 0, .null⟩ delivery.context :=
        fun _ => ⟨rfl, rfl, .inl rfl⟩
      exact enqueueFitting_enters _ suits _ sound listed named
  | schedule expression =>
      have suits : ∀ name, Birth.Suits ⟨name, 0, .null⟩ (scheduleContext moment.stamp) :=
        fun _ => ⟨rfl, rfl, .inl rfl⟩
      exact enqueueFitting_enters _ suits _ sound listed named

section Runs

variable {collaborators : Collaborators} {birth : Birth} {context other : Context}
  {rest : Running} {question : Question} {next : Answer → Running}

theorem Birth.Suits.of_frame (suits : birth.Suits other) (same : context.frame = other.frame) :
    birth.Suits context := by
  have trigger : context.frame.trigger = other.frame.trigger := by rw [same]
  have cascade : context.frame.cascade = other.frame.cascade := by rw [same]
  have trigger : context.trigger = other.trigger := trigger
  have cascade : context.cascade = other.cascade := cascade
  exact ⟨cascade ▸ suits.depth, trigger ▸ suits.source, cascade ▸ suits.named⟩

/-- An attempt names the workflow of its job in the context, as those before it did. -/
theorem Birth.Suits.startedBy (suits : birth.Suits context) :
    birth.Suits (context.startedBy birth.workflow) ∧
      (context.startedBy birth.workflow).cascade.sourceWorkflow = .str birth.workflow := by
  unfold Context.startedBy
  rcases suits.named with unnamed | named
  · rw [unnamed]
    exact ⟨⟨suits.depth, suits.source, .inr rfl⟩, rfl⟩
  · rw [named]
    exact ⟨suits, named⟩

/-- What is left of an attempt of a job. -/
def Birth.Runs (collaborators : Collaborators) (birth : Birth) (rest : Running) : Prop :=
  ∃ (workflow : Definition) (start : Context) (past : List RunTurn),
    workflow.name = birth.workflow ∧ birth.Suits start ∧
      Leaves (runWorkflow collaborators workflow start) past rest

/-- An attempt keeps to a frame that suits its job. -/
theorem Birth.Runs.frame (runs : birth.Runs collaborators rest) :
    ∃ frame : Context, birth.Suits frame ∧ frame.cascade.sourceWorkflow = .str birth.workflow ∧
      rest.Always (Question.Fits frame) fun result => result.2.frame = frame := by
  obtain ⟨workflow, start, past, named, suits, leaves⟩ := runs
  obtain ⟨started, source⟩ := suits.startedBy
  rw [← named] at started source
  exact ⟨(start.startedBy workflow.name).frame, started.of_frame rfl,
    source.trans (congrArg Value.str named),
    (runWorkflow_frame collaborators workflow start).leaves leaves⟩

theorem Birth.Runs.held (runs : birth.Runs collaborators rest) : birth.Suits rest.held := by
  obtain ⟨frame, suits, -, always⟩ := runs.frame
  cases rest with
  | done result => exact suits.of_frame (always ▸ rfl)
  | ask question next => exact suits.of_frame (always.1.same ▸ rfl)

theorem Birth.Runs.answered (runs : birth.Runs collaborators (.ask question next))
    (answer : Answer) : birth.Runs collaborators (next answer) := by
  obtain ⟨workflow, start, past, named, suits, leaves⟩ := runs
  exact ⟨workflow, start, _, named, suits, leaves.turn answer⟩

/-- A report carries the depth of the job and the name of its workflow. -/
theorem Birth.Runs.attributed {news : EntityReport}
    (runs : birth.Runs collaborators (.ask question next)) (some_name : birth.workflow ≠ "")
    (told : question.call = .report news) :
    news.depth = .int birth.depth ∧ news.sourceWorkflow = .str birth.workflow := by
  obtain ⟨frame, suits, source, always⟩ := runs.frame
  have attributed := always.1.report news told
  have truthy : (Value.str birth.workflow).truthy := by simpa [Value.truthy] using some_name
  refine ⟨attributed.depth.trans suits.depth, ?_⟩
  rw [attributed.source, source, if_pos truthy]

/-- An attempt of a workflow has come to a question: whatever is answered to it and later, the step
that asked it succeeds. -/
def StepSucceeds (collaborators : Collaborators) (workflow : Definition) (question : Question)
    (next : Answer → Running) : Prop :=
  ∃ (start : Context) (past : List RunTurn),
    Leaves (runWorkflow collaborators workflow start) past (.ask question next) ∧
      ∀ answer later result last, Talks (next answer) later (result, last) →
        ∃ outcome deeds, Performs collaborators (.steps workflow.steps)
            (start.startedBy workflow.name) (past ++ ⟨question, answer⟩ :: later) outcome last
            deeds ∧
          ∃ deed ∈ deeds, ⟨question, answer⟩ ∈ deed.asked ∧ ∃ value, deed.outcome = .ok value

/-- The step that told of a change succeeds, whatever becomes of the report. -/
theorem Birth.Runs.succeeds {news : EntityReport}
    (runs : birth.Runs collaborators (.ask question next)) (told : question.call = .report news) :
    ∃ workflow : Definition, workflow.name = birth.workflow ∧
      StepSucceeds collaborators workflow question next := by
  obtain ⟨workflow, start, past, named, -, leaves⟩ := runs
  refine ⟨workflow, named, start, past, leaves, fun answer later result last talks => ?_⟩
  obtain ⟨outcome, deeds, performs, -⟩ := performs_run (leaves.talks (.ask answer talks))
  refine ⟨outcome, deeds, performs, ?_⟩
  have telling : RunTurn.told? ⟨question, answer⟩ = some news := by
    obtain ⟨context, call⟩ := question
    cases told
    rfl
  exact performs.told (by simp) telling

end Runs

namespace Manager

/-- The job whose attempt went on, if one did: all jobs that an act makes come from there. -/
def Act.maker? : Act → Option JobId
  | .answered job => some job
  | _ => none

/-- What somebody outside asks for makes no claims. -/
def Act.Plain : Act → Prop
  | .asked request => request.Plain
  | _ => True

/-- The makers of jobs, with the maker of those that an act makes. -/
def makers (maker : JobId → Option JobId) (before : Manager Time) (act : Act) :
    JobId → Option JobId :=
  entered maker before.queue.issued act.maker?

/-- The jobs that stand in a register as the rules of cascades want it. -/
structure Lawful (maxDepth : Int) (maker : JobId → Option JobId) (births : JobId → Birth)
    (id : JobId) : Prop where
  within : 0 ≤ (births id).depth ∧ (births id).depth ≤ maxDepth
  outside : maker id = none → (births id).depth = 0 ∧ (births id).source = .null
  inside : ∀ parent, maker id = some parent → parent < id ∧
    (births id).depth = (births parent).depth + 1 ∧
    (births id).source = .str (births parent).workflow

/-- All that a manager holds agrees with a register, and the register keeps to the rules. -/
structure Traced (collaborators : Collaborators) (maxDepth : Int) (maker : JobId → Option JobId)
    (births : JobId → Birth) (manager : Manager Time) : Prop where
  listed : Listed births (manager.queue, manager.attempts)
  named : Named manager.queue
  dropped : ∀ job ∈ manager.dropped, job.id < manager.queue.issued ∧ (births job.id).Fits job
  underway : ∀ id rest, .underway id rest ∈ manager.attempts → (births id).Runs collaborators rest
  lawful : ∀ id, id < manager.queue.issued → Lawful maxDepth maker births id
  known : ∀ id parent, id < manager.queue.issued → maker id = some parent → manager.Knows parent

section Trace

variable {collaborators : Collaborators} {maxDepth : Int} {maker origin : JobId → Option JobId}
  {births later : JobId → Birth} {manager : Manager Time} {queue : Queue Time}
  {dropped : List Job} {first last : List Attempt} {attempt : Attempt} {id : JobId} {job : Job}
  {rest : Running} {chart : JobId → Value} {depth : Int} {source : Value}

theorem traced_fresh (config : QueueConfig) :
    Traced collaborators maxDepth (fun _ => none) (fun _ => ⟨"", 0, .null⟩)
      (fresh config : Manager Time) where
  listed := ⟨fun _ member => (nomatch member), fun _ member => (nomatch member),
    fun _ _ member => nomatch member⟩
  named _ member := nomatch member
  dropped _ member := nomatch member
  underway _ _ member := nomatch member
  lawful _ made := (Nat.not_lt_zero _ made).elim
  known _ _ made := (Nat.not_lt_zero _ made).elim

/-- Makers of jobs that are not made yet do not matter. -/
theorem Traced.congr (traced : Traced collaborators maxDepth maker births manager)
    (same : ∀ id, id < manager.queue.issued → origin id = maker id) :
    Traced collaborators maxDepth origin births manager where
  listed := traced.listed
  named := traced.named
  dropped := traced.dropped
  underway := traced.underway
  lawful id made := by
    obtain ⟨within, outside, inside⟩ := traced.lawful id made
    rw [← same id made] at outside inside
    exact ⟨within, outside, inside⟩
  known id parent made own := traced.known id parent made ((same id made).symm.trans own)

/-- The record of a job that is found fits its entry. -/
theorem Traced.fits (traced : Traced collaborators maxDepth maker births manager)
    (found : manager.job? id = some job) :
    job.id = id ∧ id < manager.queue.issued ∧ (births id).Fits job := by
  rcases Option.or_eq_some_iff.mp found with listed | ⟨-, gone⟩
  · obtain rfl := job?_id listed
    exact ⟨rfl, traced.listed.jobs job (List.mem_of_find?_eq_some listed)⟩
  · obtain rfl : job.id = id := by simpa using List.find?_some gone
    exact ⟨rfl, traced.dropped job (List.mem_of_find?_eq_some gone)⟩

/-- An attempt is taken out. -/
theorem Traced.without
    (traced : Traced collaborators maxDepth maker births
      ⟨queue, dropped, first ++ attempt :: last⟩) :
    Traced collaborators maxDepth maker births
      (⟨queue, dropped, first ++ last⟩ : Manager Time) := by
  have old : first ++ last ⊆ first ++ attempt :: last :=
    ((List.sublist_cons_self attempt last).append_left first).subset
  exact {
    listed := ⟨traced.listed.keyed, traced.listed.jobs, fun id workflow member =>
      traced.listed.launched id workflow (old member)⟩
    named := traced.named
    dropped := traced.dropped
    underway := fun id rest member => traced.underway id rest (old member)
    lawful := traced.lawful
    known := traced.known }

/-- A record into which a context that suits its entry may have been written. -/
theorem fits_written {made : Nat} {context : Context} (suits : (births id).Suits context)
    (entry : job.id < made ∧ (births job.id).Fits job) :
    (if job.id == id then { job with context } else job).id < made ∧
      (births (if job.id == id then { job with context } else job).id).Fits
        (if job.id == id then { job with context } else job) := by
  by_cases own : job.id = id
  · subst own
    simp only [beq_self_eq_true, if_true]
    exact ⟨entry.1, entry.2.workflow, entry.2.named, suits⟩
  · simpa only [beq_iff_eq, own, if_false] using entry

/-- An attempt goes on, and writes its context back to the record. -/
theorem Traced.carryOn (traced : Traced collaborators maxDepth maker births manager)
    (runs : (births id).Runs collaborators rest) :
    Traced collaborators maxDepth maker births (manager.carryOn id rest) := by
  have suits : (births id).Suits { rest.held with bindings := .root rest.held.bindings.base } :=
    runs.held.of_frame rfl
  exact {
    listed := {
      keyed := traced.listed.keyed
      jobs := by
        intro job member
        obtain ⟨old, found, rfl⟩ := List.mem_map.mp member
        exact fits_written suits (traced.listed.jobs old found)
      launched := by
        intro other workflow member
        rcases List.mem_append.mp member with old | new
        · exact traced.listed.launched other workflow old
        · cases List.mem_singleton.mp new }
    named := traced.named
    dropped := by
      intro job member
      obtain ⟨old, found, rfl⟩ := List.mem_map.mp member
      exact fits_written suits (traced.dropped old found)
    underway := by
      intro other remaining member
      rcases List.mem_append.mp member with old | new
      · exact traced.underway other remaining old
      · cases List.mem_singleton.mp new
        exact runs
    lawful := traced.lawful
    known := fun other parent made own => (traced.known other parent made own).carryOn }

theorem Lawful.continued {issued : Nat} (lawful : Lawful maxDepth maker births id)
    (continues : Continues births later issued depth source) (made : id < issued)
    (same : origin id = maker id) : Lawful maxDepth origin later id := by
  obtain ⟨within, outside, inside⟩ := lawful
  rw [← same] at outside inside
  have own := continues.old id made
  refine ⟨own ▸ within, own ▸ outside, fun parent makes => ?_⟩
  obtain ⟨before, deeper, source⟩ := inside parent makes
  have older := continues.old parent (before.trans made)
  exact ⟨before, by rw [own, older, deeper], by rw [own, older, source]⟩

/-- The queue is used, and the jobs that were made are entered as the rules want it. -/
theorem Traced.used (traced : Traced collaborators maxDepth maker births manager)
    (charted : Charted chart manager) {after : Scene Time (List Attempt)}
    (enters : Enters depth source births later (manager.queue, manager.attempts) after)
    (same : ∀ id, id < manager.queue.issued → origin id = maker id)
    (new : ∀ id, manager.queue.issued ≤ id → id < after.1.issued →
      Lawful maxDepth origin later id ∧
        ∀ parent, origin id = some parent → manager.Knows parent) :
    Traced collaborators maxDepth origin later
      ⟨after.1, manager.dropped ++ missing manager.queue after.1, after.2⟩ where
  listed := enters.listed
  named := enters.named
  dropped job member := by
    have before : job.id < manager.queue.issued ∧ (births job.id).Fits job := by
      rcases List.mem_append.mp member with old | lost
      · exact traced.dropped job old
      · exact traced.listed.jobs job (List.mem_filter.mp lost).1
    exact ⟨before.1.trans_le enters.issued, enters.continues.old _ before.1 ▸ before.2⟩
  underway id rest member := by
    have old := enters.underway id rest member
    exact enters.continues.old id (charted.issued old) ▸ traced.underway id rest old
  lawful id made := by
    rcases Nat.lt_or_ge id manager.queue.issued with old | fresh
    · exact (traced.lawful id old).continued enters.continues old (same id old)
    · exact (new id fresh made).1
  known id parent made own := by
    rcases Nat.lt_or_ge id manager.queue.issued with old | fresh
    · exact (traced.known id parent old ((same id old).symm.trans own)).used
    · exact ((new id fresh made).2 parent own).used

/-- What nobody inside asks for makes jobs at the beginning of cascades. -/
theorem Traced.outside (traced : Traced collaborators maxDepth maker births manager)
    (charted : Charted chart manager) (nonneg : 0 ≤ maxDepth)
    {after : Scene Time (List Attempt)}
    (enters : Enters 0 .null births later (manager.queue, manager.attempts) after)
    (same : ∀ id, id < manager.queue.issued → origin id = maker id)
    (none_inside : ∀ id, manager.queue.issued ≤ id → origin id = none) :
    Traced collaborators maxDepth origin later
      ⟨after.1, manager.dropped ++ missing manager.queue after.1, after.2⟩ := by
  refine traced.used charted enters same fun id fresh made => ⟨⟨?_, fun _ => ?_, ?_⟩, ?_⟩
  · rw [enters.continues.depth id fresh]
    exact ⟨Int.le_refl 0, nonneg⟩
  · exact ⟨enters.continues.depth id fresh, enters.continues.source id fresh⟩
  all_goals
    intro parent makes
    cases (none_inside id fresh).symm.trans makes

end Trace

section Acts

variable {collaborators : Collaborators} {maxDepth : Int} {maker : JobId → Option JobId}
  {births : JobId → Birth} {before after : Manager Time} {act : Act} {chart : JobId → Value}

/-- A report of an attempt names the workflow of its job, and leads one step deeper. -/
theorem Traced.attributed (traced : Traced collaborators maxDepth maker births before)
    (charted : Charted chart before) {id : JobId} {question : Question} {next : Answer → Running}
    {news : EntityReport} (underway : .underway id (.ask question next) ∈ before.attempts)
    (told : question.call = .report news) :
    news.sourceWorkflow = .str (births id).workflow ∧
      nextDepth (some ⟨news.sourceWorkflow, news.depth⟩) = .ok (.int ((births id).depth + 1)) := by
  obtain ⟨job, found⟩ := knows_iff.mp (charted.known _ underway)
  obtain ⟨-, -, fits⟩ := traced.fits found
  obtain ⟨depth, source⟩ := (traced.underway id _ underway).attributed fits.named told
  refine ⟨source, ?_⟩
  rw [depth]
  rfl

/-- A report of an attempt makes jobs one step deeper than its own, or none. -/
theorem Traced.reported {queue : Queue Time} {dropped : List Job} {first last : List Attempt}
    {id : JobId} {context : Context} {news : EntityReport} {next : Answer → Running}
    {answer : Answer} (moment : Moment Time)
    (traced : Traced collaborators maxDepth maker births
      ⟨queue, dropped, first ++ .underway id (.ask ⟨context, .report news⟩ next) :: last⟩)
    (charted : Charted chart
      ⟨queue, dropped, first ++ .underway id (.ask ⟨context, .report news⟩ next) :: last⟩)
    {scene : Scene Time (List Attempt)}
    (started :
      (startOnReport moment.around (.int maxDepth) news (queue, first ++ last)).2 = scene) :
    ∃ later, Traced collaborators maxDepth (entered maker queue.issued (some id)) later
      (Manager.carryOn id (next answer) ⟨scene.1, dropped ++ missing queue scene.1, scene.2⟩) := by
  have underway : Attempt.underway id (.ask ⟨context, .report news⟩ next) ∈
      first ++ .underway id (.ask ⟨context, .report news⟩ next) :: last := by simp
  have runs := traced.underway id _ underway
  have made : id < queue.issued := charted.issued underway
  obtain ⟨source, next_depth⟩ := traced.attributed charted underway rfl
  have entered : ∃ later,
      Enters ((births id).depth + 1) (.str (births id).workflow) births later
        (queue, first ++ last) scene ∧
      (queue.issued < scene.1.issued → (births id).depth + 1 ≤ maxDepth) := by
    rw [startOnReport_snd] at started
    rcases startOnChange_enters moment maxDepth charted.sound traced.without.listed traced.named _
      next_depth with ⟨-, same⟩ | ⟨within, later, enters⟩
    · rw [same] at started
      subst started
      exact ⟨_, .refl ⟨"", _, _⟩ traced.without.listed traced.named,
        fun more => (Nat.lt_irrefl _ more).elim⟩
    · rw [started] at enters
      exact ⟨later, source ▸ enters, fun _ => within⟩
  obtain ⟨later, enters, within⟩ := entered
  have own : later id = births id := enters.continues.old id made
  have lawful := traced.lawful id made
  refine ⟨later, (traced.without.used charted.without enters (fun _ => entered_old) ?_).carryOn
    (own ▸ runs.answered answer)⟩
  intro other fresh issued
  have made_by : entered maker queue.issued (some id) other = some id := entered_new fresh
  refine ⟨⟨?_, fun none => ?_, fun parent makes => ?_⟩, fun parent makes => ?_⟩
  · rw [enters.continues.depth other fresh]
    exact ⟨Int.add_nonneg lawful.within.1 (by decide), within (Nat.lt_of_le_of_lt fresh issued)⟩
  · cases none.symm.trans made_by
  · cases makes.symm.trans made_by
    rw [own]
    exact ⟨Nat.lt_of_lt_of_le made fresh, enters.continues.depth other fresh,
      enters.continues.source other fresh⟩
  · cases makes.symm.trans made_by
    exact charted.known _ underway

/-- Every act leads to a register again that keeps to the rules. -/
theorem Happens.traced (nonneg : 0 ≤ maxDepth)
    (happens : Happens collaborators maxDepth before act after) (plain : act.Plain)
    (charted : Charted chart before)
    (traced : Traced collaborators maxDepth maker births before) :
    ∃ later, Traced collaborators maxDepth (makers maker before act) later after := by
  cases happens with
  | asked moment request exact =>
      have sound : Sound ((before.queue, before.attempts) : Scene Time (List Attempt)).1 :=
        charted.sound
      obtain ⟨later, enters⟩ :=
        perform_enters moment maxDepth sound traced.listed traced.named plain
      exact ⟨later, traced.outside charted nonneg enters (fun _ => entered_old)
        fun _ => entered_new⟩
  | @begun queue dropped first id workflow last job found =>
      obtain ⟨-, -, fits⟩ := traced.fits found
      have launched : Attempt.launched id workflow ∈ first ++ .launched id workflow :: last := by
        simp
      have named := (traced.listed.launched id workflow launched).2
      have runs : (births id).Runs collaborators (runWorkflow collaborators workflow job.context) :=
        ⟨workflow, job.context, [], named, fits.context, .all⟩
      exact ⟨births, (traced.without.carryOn runs).congr fun _ => entered_old⟩
  | @answered queue dropped first id last question next foreign answer =>
      have runs := traced.underway id (.ask question next) (by simp)
      exact ⟨births, (traced.without.carryOn (runs.answered answer)).congr fun _ => entered_old⟩
  | @reported queue dropped first id last context news next moment bindings jobs manager heard =>
      obtain ⟨rfl, rfl⟩ := Prod.mk.inj heard
      exact traced.reported moment charted rfl
  | @ended queue dropped first id last result context moment =>
      have settles : Settles (.plain queue) (queue, first ++ last)
          (report id (Rehearsal.Task.outcomeOf result) moment.around (queue, first ++ last)) :=
        report_settles charted.sound.distinct rfl _
      obtain ⟨operation, moves⟩ := report_moves (Rehearsal.Task.outcomeOf result)
      have enters := settles.toKeeps.enters ⟨"", 0, .null⟩ traced.without.listed traced.named moves
      exact ⟨_, traced.without.outside charted.without nonneg enters (fun _ => entered_old)
        fun _ => entered_new⟩
  | @woken _ id moment armed =>
      have moves : Moves moment.around (.wake id) (before.queue, before.attempts) _ :=
        wake_moves around_quiet id _
      have enters := (wake_keeps charted.sound.distinct id).enters ⟨"", 0, .null⟩ traced.listed
        traced.named moves
      exact ⟨_, traced.outside charted nonneg enters (fun _ => entered_old) fun _ => entered_new⟩

/-- Only requests from outside and attempts of jobs that stand before the limit make jobs. -/
theorem Happens.makes (happens : Happens collaborators maxDepth before act after)
    (charted : Charted chart before) (traced : Traced collaborators maxDepth maker births before)
    (more : before.queue.issued < after.queue.issued) :
    (∃ request, act = .asked request) ∨
      ∃ id, act = .answered id ∧ before.Knows id ∧ (births id).depth < maxDepth := by
  cases happens with
  | asked moment request => exact .inl ⟨request, rfl⟩
  | begun | answered => exact (Nat.lt_irrefl _ more).elim
  | @reported queue dropped first id last context news next moment bindings jobs manager heard =>
      obtain ⟨rfl, rfl⟩ := Prod.mk.inj heard
      have underway : Attempt.underway id (.ask ⟨context, .report news⟩ next) ∈
          first ++ .underway id (.ask ⟨context, .report news⟩ next) :: last := by simp
      refine .inr ⟨id, rfl, charted.known _ underway, ?_⟩
      obtain ⟨-, next_depth⟩ := traced.attributed charted underway rfl
      rcases startOnChange_enters moment maxDepth charted.sound traced.without.listed traced.named
        _ next_depth with ⟨-, same⟩ | ⟨within, -⟩
      · have still : (startOnReport moment.around (.int maxDepth) news
            (queue, first ++ last)).2.1.issued = queue.issued := by
          rw [startOnReport_snd, same]
        exact (Nat.lt_irrefl _ (Nat.lt_of_lt_of_eq more still)).elim
      · omega
  | @ended queue dropped first id last result context moment =>
      have settles : Settles (.plain queue) (queue, first ++ last)
          (report id (Rehearsal.Task.outcomeOf result) moment.around (queue, first ++ last)) :=
        report_settles charted.sound.distinct rfl _
      have still := congrArg Roster.issued settles.roster
      exact (Nat.lt_irrefl _ (Nat.lt_of_lt_of_eq more still)).elim
  | @woken _ id moment armed =>
      have keeps : Keeps (before.queue, before.attempts) (wake moment.around id _) :=
        wake_keeps charted.sound.distinct id
      have still := congrArg Roster.issued keeps.roster
      exact (Nat.lt_irrefl _ (Nat.lt_of_lt_of_eq more still)).elim

end Acts

section Runs

variable {collaborators : Collaborators} {maxDepth : Int} {config : QueueConfig}
  {maker : JobId → Option JobId} {manager : Manager Time}

/-- A run of a manager from its start, with the job whose attempt made each job, if one did. Whoever
asks from outside makes no claims. -/
inductive Descends (collaborators : Collaborators) (maxDepth : Int) (config : QueueConfig) :
    (JobId → Option JobId) → Manager Time → Prop where
  | fresh : Descends collaborators maxDepth config (fun _ => none) (fresh config)
  | act {maker before after act} (descends : Descends collaborators maxDepth config maker before)
      (plain : act.Plain) (happens : Happens collaborators maxDepth before act after) :
      Descends collaborators maxDepth config (makers maker before act) after

/-- A job stands where its making put it: at the beginning of a cascade, or one step deeper than the
job whose attempt made it and under the name of that workflow. -/
structure Placed (maxDepth : Int) (maker : JobId → Option JobId) (manager : Manager Time)
    (id : JobId) (job : Job) (depth : Int) : Prop where
  own : job.context.cascade.depth = .int depth
  within : 0 ≤ depth ∧ depth ≤ maxDepth
  outside : maker id = none → depth = 0 ∧ job.context.trigger.sourceWorkflow = .null
  inside : ∀ parent, maker id = some parent → parent < id ∧
    ∃ record, manager.job? parent = some record ∧
      record.context.cascade.depth = .int (depth - 1) ∧
      job.context.trigger.sourceWorkflow = .str record.workflow

theorem Descends.traced (nonneg : 0 ≤ maxDepth)
    (descends : Descends collaborators maxDepth config maker manager) :
    ∃ (chart : JobId → Value) (births : JobId → Birth), Charted chart manager ∧
      Traced collaborators maxDepth maker births manager := by
  induction descends with
  | fresh => exact ⟨_, _, charted_fresh config, traced_fresh config⟩
  | act _ plain happens ih =>
      obtain ⟨chart, births, charted, traced⟩ := ih
      obtain ⟨next, later, -⟩ := happens.lightens charted
      obtain ⟨register, kept⟩ := happens.traced nonneg plain charted traced
      exact ⟨next, register, later, kept⟩

theorem Traced.placed {births : JobId → Birth} {id : JobId} {job : Job}
    (traced : Traced collaborators maxDepth maker births manager)
    (found : manager.job? id = some job) :
    Placed maxDepth maker manager id job (births id).depth := by
  obtain ⟨-, made, fits⟩ := traced.fits found
  obtain ⟨within, outside, inside⟩ := traced.lawful id made
  refine ⟨fits.context.depth, within, fun none => ?_, fun parent makes => ?_⟩
  · obtain ⟨shallow, sourceless⟩ := outside none
    exact ⟨shallow, fits.context.source.trans sourceless⟩
  · obtain ⟨before, deeper, source⟩ := inside parent makes
    obtain ⟨record, listed⟩ := knows_iff.mp (traced.known id parent made makes)
    obtain ⟨-, -, older⟩ := traced.fits listed
    refine ⟨before, record, listed, ?_, ?_⟩
    · rw [older.context.depth, deeper, Int.add_sub_cancel]
    · rw [fits.context.source, source, older.workflow]

/-- In a run in which whoever asks from outside makes no claims, every job stands where its making
put it and keeps to the limit. Only requests from outside and attempts of jobs that stand before the
limit make jobs; and a step that has told of a change succeeds, whatever becomes of the report. -/
theorem cascade_lineage (nonneg : 0 ≤ maxDepth)
    (descends : Descends collaborators maxDepth config maker manager) :
    (∀ id job, manager.job? id = some job → ∃ depth, Placed maxDepth maker manager id job depth) ∧
    (∀ act after, Happens collaborators maxDepth manager act after →
      manager.queue.issued < after.queue.issued →
      (∃ request, act = .asked request) ∨
        ∃ id job depth, act = .answered id ∧ manager.job? id = some job ∧
          job.context.cascade.depth = .int depth ∧ depth < maxDepth) ∧
    ∀ id question next news, .underway id (.ask question next) ∈ manager.attempts →
      question.call = .report news →
      ∃ job workflow, manager.job? id = some job ∧ workflow.name = job.workflow ∧
        StepSucceeds collaborators workflow question next := by
  obtain ⟨chart, births, charted, traced⟩ := descends.traced nonneg
  refine ⟨fun id job found => ⟨_, traced.placed found⟩, fun act after happens more => ?_,
    fun id question next news underway told => ?_⟩
  · refine (happens.makes charted traced more).imp_right ?_
    rintro ⟨id, rfl, known, above⟩
    obtain ⟨job, found⟩ := knows_iff.mp known
    exact ⟨id, job, _, rfl, found, (traced.placed found).own, above⟩
  · obtain ⟨job, found⟩ := knows_iff.mp (charted.known _ underway)
    obtain ⟨workflow, named, succeeds⟩ := (traced.underway id _ underway).succeeds told
    obtain ⟨-, -, fits⟩ := traced.fits found
    exact ⟨job, workflow, found, named.trans fits.workflow.symm, succeeds⟩

/-- Answers the creation of a note with another one. -/
def echo : Definition where
  name := "echo"
  trigger := { entity := some "Note", event := some .create }
  steps := [.query none ⟨some "Note", some "create", some [("size", .int 1)], none⟩]

def noon : Moment Nat := ⟨0, some 0, Queue.countOn⟩

/-- A manager that knows one workflow and was asked to start it. -/
def echoing : Manager Nat :=
  let registered := (fresh (.ofParts none none none)).run noon fun around =>
    (Request.use (.register echo)).perform around 1
  registered.run noon fun around => (Request.start (.str "echo") .null).perform around 1

theorem descends_echoing : ∃ maker,
    Descends {} 1 (.ofParts none none none) maker echoing := by
  have start : Descends {} 1 (.ofParts none none none) (fun _ => none) (fresh _ : Manager Nat) :=
    .fresh
  have registered : Descends {} 1 _ (makers _ _ (.asked (.use (.register echo)))) _ :=
    start.act trivial (.asked noon _ trivial)
  have started : Descends {} 1 _ (makers _ _ (.asked (.start (.str "echo") .null))) _ :=
    registered.act trivial (.asked noon _ trivial)
  exact ⟨_, started⟩

/-- The first note, as the first job tells of it. -/
def echoNews : EntityReport := ⟨"Note", .create, .null, .int 7, .str "echo", .int 0⟩

/-- The context of the first job. -/
def echoContext : Context := (manualContext .null).startedBy "echo"

theorem echo_asks : ∃ next last, runWorkflow {} echo (manualContext .null) =
      .ask (⟨echoContext, .create "Note" (.obj [("size", .int 1)])⟩ : Question) next ∧
    next ⟨.ok (.int 7), echoContext.bindings⟩ =
      .ask (⟨echoContext, .report echoNews⟩ : Question) last :=
  ⟨_, _, rfl, rfl⟩

/-- The only attempt is that of one job; what is left of it is to be run. -/
def alone (manager : Manager Time) (id : JobId) (rest : Running) : Manager Time :=
  carryOn id rest ⟨manager.queue, manager.dropped, []⟩

theorem alone_answers {id : JobId} {question : Question} {next : Answer → Running}
    (foreign : ∀ news, question.call ≠ .report news) (answer : Answer) :
    Happens collaborators maxDepth (alone manager id (.ask question next)) (.answered id)
      (alone (alone manager id (.ask question next)) id (next answer)) := by
  let before := alone manager id (.ask question next)
  show Happens collaborators maxDepth
    ⟨before.queue, before.dropped, [] ++ .underway id (.ask question next) :: []⟩ _ _
  exact .answered foreign answer

theorem alone_reports {id : JobId} {context : Context} {news : EntityReport}
    {next : Answer → Running} (moment : Moment Time) (bindings : Variables) :
    let before := alone manager id (.ask ⟨context, .report news⟩ next)
    let heard := use moment (fun around => startOnReport around (.int maxDepth) news)
      ⟨before.queue, before.dropped, []⟩
    Happens collaborators maxDepth before (.answered id)
      (carryOn id (next ⟨heard.1.map fun _ => .null, bindings⟩) heard.2) := by
  intro before heard
  show Happens collaborators maxDepth
    ⟨before.queue, before.dropped, [] ++ .underway id (.ask ⟨context, .report news⟩ next) :: []⟩ _ _
  exact .reported moment bindings Prod.mk.eta.symm

theorem use_queue {α : Type} (moment : Moment Time)
    (operation : Surroundings Time (List Attempt) → Scene Time (List Attempt) →
      α × Scene Time (List Attempt)) (manager : Manager Time) :
    (manager.use moment operation).2.queue =
      (operation moment.around (manager.queue, manager.attempts)).2.1 := rfl

/-- Another job is made of the news. -/
theorem echo_made (first last : Running) :
    let before := alone (alone echoing 0 first) 0 last
    Knows (use noon (fun around => startOnReport around (.int 1) echoNews)
      ⟨before.queue, before.dropped, []⟩).2 1 := by
  intro before
  have next : nextDepth (some ⟨echoNews.sourceWorkflow, echoNews.depth⟩) = .ok (.int 1) := rfl
  have ids : (startOnReport noon.around (.int 1) echoNews (before.queue, [])).2.1.roster.ids =
      [0, 1] := by
    rw [startOnReport_snd, startOnChange, admittedDepth_eq next]
    rfl
  refine .inl ?_
  rw [use_queue, ids]
  simp

theorem echo_lineage : ∃ (maker : JobId → Option JobId) (manager : Manager Nat),
    ((0 : Int) ≤ 1 ∧ Descends {} 1 (.ofParts none none none) maker manager ∧
      maker 1 = some 0 ∧ manager.Knows 1) ∧
    (∀ id job, manager.job? id = some job → ∃ depth, Placed 1 maker manager id job depth) ∧
    (∀ act after, Happens {} 1 manager act after →
      manager.queue.issued < after.queue.issued →
      (∃ request, act = .asked request) ∨
        ∃ id job depth, act = .answered id ∧ manager.job? id = some job ∧
          job.context.cascade.depth = .int depth ∧ depth < 1) ∧
    ∀ id question next news, .underway id (.ask question next) ∈ manager.attempts →
      question.call = .report news →
      ∃ job workflow, manager.job? id = some job ∧ workflow.name = job.workflow ∧
        StepSucceeds {} workflow question next := by
  obtain ⟨maker, started⟩ := descends_echoing
  obtain ⟨next, last, asks, tells⟩ := echo_asks
  obtain ⟨job, found, context⟩ : ∃ job, echoing.job? 0 = some job ∧
      job.context = manualContext .null := ⟨_, rfl, rfl⟩
  have begins : Happens {} 1
      (⟨echoing.queue, echoing.dropped, [] ++ .launched 0 echo :: []⟩ : Manager Nat) (.begun 0)
      (alone echoing 0 (runWorkflow {} echo job.context)) := .begun found
  rw [context, asks] at begins
  have begun : Descends {} 1 _ (makers _ _ (.begun 0)) _ := started.act trivial begins
  have made : Descends {} 1 _ (makers _ _ (.answered 0)) _ :=
    begun.act trivial (alone_answers (by simp) ⟨.ok (.int 7), echoContext.bindings⟩)
  rw [tells] at made
  have told : Descends {} 1 _ (makers _ _ (.answered 0)) _ :=
    made.act trivial (alone_reports noon echoContext.bindings)
  have one : echoing.queue.issued = 1 := rfl
  refine ⟨_, _, ⟨by decide, told, entered_new (Nat.le_of_eq one), ?_⟩,
    cascade_lineage (by decide) told⟩
  exact (echo_made _ _).carryOn

end Runs

end Manager

end Orchestra
