import Orchestra.Proofs.Queue.Making
import Orchestra.Proofs.Queue.Bookkeeping
import Orchestra.Proofs.Variables
import Orchestra.Proofs.Workflow.Acceptance

/-!
What an occurrence starts.

The workflows of a queue carry conditions that were checked when they were defined, and their names
tell them apart. An occurrence therefore makes one job for each enabled workflow that listens for it,
or it is turned down before the first of them.
-/

namespace Orchestra

open Queue

variable {Time σ : Type}

/-- The condition of the trigger, if there is one, follows the grammar of conditions. -/
def Definition.Testable (workflow : Definition) : Prop :=
  ∀ condition, workflow.trigger.condition = some condition → Condition.Formed (.obj condition)

/-- A definition that was read is testable. -/
theorem Definition.testable_of_read {data : Value} {workflow : Definition}
    (read : Definition.ofValue data = .ok workflow) : workflow.Testable := by
  intro condition kept
  unfold Definition.ofValue at read
  split at read
  next valid =>
    cases read
    cases data with
    | obj entries =>
        obtain ⟨tree, compiled⟩ := Workflow.definition_condition_compiles valid kept
        have reads := Condition.ofValue_reads (.obj condition)
        rw [compiled] at reads
        exact reads.1
    | _ => cases valid
  · cases read

namespace Queue

/-- Nothing but a testable workflow is registered. -/
def Operation.Testable : Operation → Prop
  | .register workflow => workflow.Testable
  | _ => True

theorem Operation.Testable.registers {operation : Operation} (testable : operation.Testable)
    {workflow : Definition} (registers : operation.Registers workflow) : workflow.Testable := by
  cases operation with
  | register other => exact (show other = workflow from registers) ▸ testable
  | registerValue data => exact Definition.testable_of_read registers
  | _ => exact registers.elim

/-- The workflows of a queue are testable, and each is found by its name. -/
structure Stocked (queue : Queue Time) : Prop where
  keyed : Keyed queue
  names : (queue.workflows.map Prod.fst).Nodup
  testable : ∀ entry ∈ queue.workflows, entry.2.Testable

theorem stocked_empty (config : QueueConfig) : Stocked (empty config : Queue Time) where
  keyed _ listed := (List.not_mem_nil listed).elim
  names := List.nodup_nil
  testable _ listed := (List.not_mem_nil listed).elim

theorem nodup_putWorkflow (name : String) (workflow : Definition)
    {workflows : List (String × Definition)} (names : (workflows.map Prod.fst).Nodup) :
    ((putWorkflow name workflow workflows).map Prod.fst).Nodup := by
  induction workflows with
  | nil => exact List.nodup_singleton name
  | cons first rest ih =>
      obtain ⟨fresh, others⟩ := List.nodup_cons.mp names
      unfold putWorkflow
      split
      · exact names
      next different =>
        refine List.nodup_cons.mpr ⟨fun listed => ?_, ih others⟩
        obtain ⟨entry, member, same⟩ := List.mem_map.mp listed
        rcases mem_putWorkflow member with rfl | old
        · exact different (beq_iff_eq.mpr same.symm)
        · exact fresh (same ▸ List.mem_map_of_mem old)

namespace Stocked

variable {around : Surroundings Time σ} {operation : Operation} {queue next : Queue Time}
  {signals : List (Signal Time)}

theorem move (stocked : Stocked queue) (testable : operation.Testable)
    (move : Move around operation queue signals next) : Stocked next := by
  refine ⟨stocked.keyed.move move, ?_, ?_⟩
  · cases move with
    | registered workflow => exact nodup_putWorkflow _ workflow stocked.names
    | unregistered => exact stocked.names.sublist (List.filter_sublist.map _)
    | _ => exact stocked.names
  · cases move with
    | registered workflow registers =>
        intro entry member
        rcases mem_putWorkflow member with rfl | old
        · exact testable.registers registers
        · exact stocked.testable entry old
    | unregistered => exact fun entry member => stocked.testable entry (List.mem_filter.mp member).1
    | _ => exact stocked.testable

/-- The workflows of every run are testable if those that are registered are. -/
theorem run (config : QueueConfig) (state : σ) {uses : List (Use Time σ)}
    (quiet : ∀ use ∈ uses, use.around.Quiet) (testable : ∀ use ∈ uses, use.operation.Testable) :
    Stocked (run uses (empty config, state)).1 := by
  have both : Sound (Queue.run uses (empty config, state)).1 ∧
      Stocked (Queue.run uses (empty config, state)).1 := by
    refine run_preserves (fun scene => Sound scene.1 ∧ Stocked scene.1) ?_ _
      ⟨sound_empty config, stocked_empty config⟩
    rintro use member scene ⟨sound, stocked⟩
    refine ⟨sound.apply (quiet use member), ?_⟩
    exact (Operation.moves (quiet use member) use.operation sound.fresh).preserves
      (fun scene => Stocked scene.1) (fun _ move stocked => stocked.move (testable use member) move)
      stocked
  exact both.2

/-- A workflow is found by its name. -/
theorem known (stocked : Stocked queue) {entry : String × Definition}
    (member : entry ∈ queue.workflows) : queue.workflow? entry.2.name = some entry.2 := by
  obtain ⟨before, since, split⟩ := List.append_of_mem member
  have names := stocked.names
  rw [split, List.map_append, List.map_cons] at names
  have apart := (List.nodup_append.mp names).2.2
  refine List.lookup_eq_some_iff.mpr ⟨before, since, ?_, fun other earlier => ?_⟩
  · rw [stocked.keyed entry member, split]
  · rw [stocked.keyed entry member, bne_iff_ne]
    exact (apart _ (List.mem_map_of_mem earlier) _ List.mem_cons_self).symm

end Stocked

end Queue

namespace Routing

/-- The scope of a condition shows the fields of the record, and over them what was before and after
the change, and the record itself. -/
theorem Change.scope_key? (news : Change) (name : String) :
    news.scope.key? name =
      if name = "data" then some news.record
      else if name = "after" then some news.after
      else if name = "before" then some news.before
      else match news.record with
        | .obj fields => Fields.get? fields name
        | _ => none := by
  have written : ∀ fields : Fields, Fields.get? (Fields.overlay fields
      [("before", news.before), ("after", news.after), ("data", news.record)]) name =
      if name = "data" then some news.record
      else if name = "after" then some news.after
      else if name = "before" then some news.before
      else fields.get? name := by
    intro fields
    simp only [Fields.overlay, List.foldl_cons, List.foldl_nil]
    split
    next same => rw [same, Fields.get?_set_self]
    next data =>
      rw [Fields.get?_set_other _ _ data]
      split
      next same => rw [same, Fields.get?_set_self]
      next after =>
        rw [Fields.get?_set_other _ _ after]
        split
        next same => rw [same, Fields.get?_set_self]
        next before => rw [Fields.get?_set_other _ _ before]
  refine (written _).trans ?_
  cases news.record <;> rfl

/-- What starts workflows, apart from those who ask for one by its name. -/
inductive Occurrence where
  | change (news : Change) (cascade : Option CascadeInfo)
  | delivery (request : Delivery)
  | schedule (expression : Value)

open scoped Classical in
/-- The workflows among some that are enabled and meant, in their order. -/
noncomputable def chosen (meant : Definition → Prop) (entries : List (String × Definition)) :
    List Definition :=
  (entries.map Prod.snd).filter fun workflow => workflow.enabled ∧ meant workflow

/-- The titles of jobs that are made of workflows one after the other. -/
def titles (first : JobId) (context : Context) (workflows : List Definition) :
    List (JobId × String × Context) :=
  (workflows.zipIdx first).map fun entry => (entry.2, entry.1.name, context)

namespace Occurrence

/-- Starts the workflows that listen for an occurrence. -/
def start (around : Surroundings Time σ) (maxDepth : Value) :
    Occurrence → Scene Time σ → Except Failure (List JobId) × Scene Time σ
  | .change news cascade => startOnChange around maxDepth news cascade
  | .delivery request => startOnDelivery around request
  | .schedule expression => startOnSchedule around expression

/-- A workflow listens for an occurrence. -/
inductive Concerns : Occurrence → Definition → Prop
  | change {news : Change} {cascade : Option CascadeInfo} {workflow : Definition}
      (entity : (Value.ofString? workflow.trigger.entity).same news.entity = true)
      (event : (Value.ofString? (workflow.trigger.event.map EntityEvent.name)).same news.event = true)
      (holds : ∀ condition, workflow.trigger.condition = some condition →
        Condition.Holds news.scope (.obj condition)) :
      Concerns (.change news cascade) workflow
  | delivery {request : Delivery} {workflow : Definition} {path : String}
      (bound : workflow.trigger.webhook = some path) (named : path ≠ "")
      (asked : request.path = .str path) : Concerns (.delivery request) workflow
  | schedule {workflow : Definition} {expression : Value} {text : String}
      (bound : workflow.trigger.schedule = some text) (named : text ≠ "")
      (asked : expression = .str text) : Concerns (.schedule expression) workflow

/-- The workflows that an occurrence starts, in the order of registration. -/
noncomputable def listeners (occurrence : Occurrence) (queue : Queue Time) : List Definition :=
  chosen occurrence.Concerns queue.workflows

/-- The context of the jobs that an occurrence makes. -/
inductive Sets (stamp : Stamp) : Occurrence → Context → Prop
  | change {news : Change} {cascade : Option CascadeInfo} {depth : Value}
      (next : nextDepth cascade = .ok depth) :
      Sets stamp (.change news cascade)
        (news.context ((cascade.map CascadeInfo.sourceWorkflow).getD .null) depth)
  | delivery (request : Delivery) : Sets stamp (.delivery request) request.context
  | schedule (expression : Value) : Sets stamp (.schedule expression) (scheduleContext stamp)

/-- Why an occurrence is turned down. -/
inductive Refused (maxDepth : Value) (queue : Queue Time) : Occurrence → Failure → Prop
  | tooDeep {news : Change} {cascade : Option CascadeInfo} {depth : Value}
      (next : nextDepth cascade = .ok depth) (deep : depth.greater maxDepth = .ok true) :
      Refused maxDepth queue (.change news cascade) (.cascadeTooDeep depth maxDepth)
  /-- The depth of the change is none that can be counted on from, or none that can be compared. -/
  | unmeasured {news : Change} {cascade : Option CascadeInfo} {fault : OperandFault}
      (fails : (nextDepth cascade >>= fun depth => depth.greater maxDepth) = .error fault) :
      Refused maxDepth queue (.change news cascade) (.operand fault)
  | stopping {occurrence : Occurrence} (stopping : queue.stopping = true)
      (heard : occurrence.listeners queue ≠ []) :
      Refused maxDepth queue occurrence (.queueShutdown "Workflow queue is shutting down")

end Occurrence

section Judging

variable {workflow : Definition}

/-- A test of a workflow does not fail, and it tells what is meant. -/
def Judges (fits : Definition → Except Failure Bool) (meant : Definition → Prop)
    (workflow : Definition) : Prop :=
  ∃ verdict, fits workflow = .ok verdict ∧ (verdict = true ↔ meant workflow)

end Judging

section Fitting

variable {around : Surroundings Time σ} {fits : Definition → Except Failure Bool}
  {meant : Definition → Prop} {context : Context} {scene : Scene Time σ}
  {entries : List (String × Definition)}

theorem Judges.asked {workflow : Definition} (judges : Judges fits meant workflow) :
    ∃ verdict, (if workflow.enabled then fits workflow else .ok false) = .ok verdict ∧
      (verdict = true ↔ workflow.enabled ∧ meant workflow) := by
  obtain ⟨verdict, tells, means⟩ := judges
  cases enabled : workflow.enabled with
  | true => exact ⟨verdict, tells, by simp [means]⟩
  | false => exact ⟨false, rfl, by simp⟩

end Fitting

/-- What comes of an occurrence: one new job for each of its listeners, or nothing at all. -/
inductive Occurrence.Answered (occurrence : Occurrence) (maxDepth : Value) (stamp : Stamp)
    (scene : Scene Time σ) : Except Failure (List JobId) × Scene Time σ → Prop
  | started {context : Context} {last : Scene Time σ}
      (admitted : ∀ failure, ¬ occurrence.Refused maxDepth scene.1 failure)
      (sets : occurrence.Sets stamp context)
      (fresh : ∀ job ∈ scene.1.jobs, job.id < scene.1.issued)
      (gains : Gains (titles scene.1.issued context (occurrence.listeners scene.1)) scene.1 last.1) :
      occurrence.Answered maxDepth stamp scene
        (.ok (List.range' scene.1.issued (occurrence.listeners scene.1).length), last)
  | refused {failure : Failure} (refused : occurrence.Refused maxDepth scene.1 failure) :
      occurrence.Answered maxDepth stamp scene (.error failure, scene)

section Starting

variable {around : Surroundings Time σ} {fits : Definition → Except Failure Bool}
  {scene : Scene Time σ} {occurrence : Occurrence} {context : Context} {maxDepth : Value}

end Starting

end Routing

end Orchestra
