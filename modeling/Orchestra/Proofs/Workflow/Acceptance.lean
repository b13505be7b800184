import Orchestra.Proofs.Condition.Meaning
import Orchestra.Proofs.Execution.Blame
import Orchestra.Proofs.Workflow.Reading
import Orchestra.Routing

/-!
Malformed definitions are refused when they are read.

A definition that was read mirrors its data at every depth, so that nothing malformed is left in it:
each test is compiled, the condition of its trigger compiles again whenever it is asked, and no run of
it comes upon a step of no kind or a condition that cannot be evaluated.
-/

namespace Orchestra

namespace Workflow

/-- The names under which the two branches of a condition step may stand. -/
def branchFields : List (List String) := [["then"], ["else", "else_"]]

/-- The data of a step are malformed, or those of a step somewhere in its lists. -/
inductive MalformedStep : Value → Prop
  | shapeless {data : Value} (shapeless : ∀ entries, data ≠ .obj entries) : MalformedStep data
  | kind {entries : Fields}
      (strange : ∀ step : Step, entries.get? "type" ≠ some (.str step.kindName)) :
      MalformedStep (.obj entries)
  | test {entries : Fields} {expression : Value}
      (kind : entries.get? "type" = some (.str "condition"))
      (given : given? entries ["if", "if_"] = some expression) (present : expression ≠ .null)
      (ill : ¬ Condition.Formed expression) : MalformedStep (.obj entries)
  | branch {entries : Fields} {names : List String} {data : Value}
      (kind : entries.get? "type" = some (.str "condition")) (named : names ∈ branchFields)
      (given : given? entries names = some data) (unlisted : ∀ items, data ≠ .list items) :
      MalformedStep (.obj entries)
  | inBranch {entries : Fields} {names : List String} {items : List Value} {item : Value}
      (kind : entries.get? "type" = some (.str "condition")) (named : names ∈ branchFields)
      (given : given? entries names = some (.list items)) (member : item ∈ items)
      (malformed : MalformedStep item) : MalformedStep (.obj entries)
  | body {entries : Fields} {data : Value} (kind : entries.get? "type" = some (.str "loop"))
      (given : entries.get? "do" = some data) (present : data ≠ .null)
      (unlisted : ∀ items, data ≠ .list items) : MalformedStep (.obj entries)
  | inBody {entries : Fields} {items : List Value} {item : Value}
      (kind : entries.get? "type" = some (.str "loop"))
      (given : entries.get? "do" = some (.list items)) (member : item ∈ items)
      (malformed : MalformedStep item) : MalformedStep (.obj entries)

/-- The data of a definition are malformed: a step of it is, or the condition of its trigger. -/
inductive Malformed : Value → Prop
  | step {entries : Fields} {items : List Value} {item : Value}
      (given : entries.get? "steps" = some (.list items)) (member : item ∈ items)
      (malformed : MalformedStep item) : Malformed (.obj entries)
  | trigger {entries trigger : Fields} {expression : Value}
      (given : entries.get? "trigger" = some (.obj trigger))
      (conditional : trigger.get? "condition" = some expression) (present : expression ≠ .null)
      (ill : ¬ Condition.Formed expression) : Malformed (.obj entries)

section Steps

variable {data : Value} {entries : Fields} {items : List Value} {steps : List Step}

/-- What describes steps is a list. -/
theorem DescribesAll.listed (describes : DescribesAll (some data) steps) :
    ∃ items, data = .list items := by
  cases describes with
  | nil => exact ⟨[], rfl⟩
  | cons => exact ⟨_, rfl⟩

/-- Each item of a list that describes steps describes one of them. -/
theorem DescribesAll.describes_of_mem (describes : DescribesAll (some (.list items)) steps)
    {item : Value} (member : item ∈ items) : ∃ step ∈ steps, Describes item step := by
  induction items generalizing steps with
  | nil => cases member
  | cons first rest ih =>
      cases describes with
      | @cons _ _ step later here each =>
          rcases List.mem_cons.mp member with rfl | member
          · exact ⟨step, List.mem_cons_self, here⟩
          · obtain ⟨other, found, describes⟩ := ih each member
            exact ⟨other, List.mem_cons_of_mem step found, describes⟩

/-- A step that is described is of the kind that its data name. -/
theorem Describes.kind {step : Step} (describes : Describes (.obj entries) step) :
    entries.get? "type" = some (.str step.kindName) := by
  cases describes with
  | plain kind => exact kind
  | condition kind => exact kind
  | bodiless kind => exact kind
  | loop kind => exact kind

theorem Describes.of_condition {step : Step} (describes : Describes (.obj entries) step)
    (kind : entries.get? "type" = some (.str "condition")) :
    ∃ target test onTrue onFalse, step = .condition target test onTrue onFalse := by
  have same := describes.kind
  rw [kind] at same
  cases step with
  | condition target test onTrue onFalse => exact ⟨target, test, onTrue, onFalse, rfl⟩
  | _ => simp [Step.kindName] at same

theorem Describes.of_loop {step : Step} (describes : Describes (.obj entries) step)
    (kind : entries.get? "type" = some (.str "loop")) :
    ∃ target items body, step = .loop target items body := by
  have same := describes.kind
  rw [kind] at same
  cases step with
  | loop target items body => exact ⟨target, items, body, rfl⟩
  | _ => simp [Step.kindName] at same

/-- A compiled test comes from a well-formed expression. -/
theorem Tests.formed {expression : Value} {test : Option Condition}
    (tests : Tests (some expression) test) (present : expression ≠ .null) :
    Condition.Formed expression := by
  cases tests with
  | null => exact absurd rfl present
  | compiled read =>
      have reads := Condition.ofValue_reads expression
      rw [read] at reads
      exact reads.1

/-- The lists of a condition step describe its branches. -/
theorem Describes.branch {target : Option String} {test : Option Condition}
    {onTrue onFalse : List Step}
    (describes : Describes (.obj entries) (.condition target test onTrue onFalse))
    {names : List String} (named : names ∈ branchFields) :
    ∃ branch, DescribesAll (given? entries names) branch := by
  cases describes with
  | plain _ flat => exact absurd rfl flat.1
  | condition _ _ yes no =>
      simp only [branchFields, List.mem_cons, List.not_mem_nil, or_false] at named
      rcases named with rfl | rfl
      · exact ⟨onTrue, yes⟩
      · exact ⟨onFalse, no⟩

/-- The list of a loop that is not null describes its body. -/
theorem Describes.body {target : Option String} {list : Option Value} {body : Option (List Step)}
    (describes : Describes (.obj entries) (.loop target list body))
    (given : entries.get? "do" = some data) (present : data ≠ .null) :
    ∃ steps, DescribesAll (some data) steps := by
  cases describes with
  | plain _ flat => exact absurd rfl flat.2
  | bodiless _ absent =>
      rcases absent with absent | null
      · rw [given] at absent
        cases absent
      · rw [given] at null
        exact absurd (Option.some.inj null) present
  | loop _ found each =>
      rw [given] at found
      cases found
      exact ⟨_, each⟩

/-- Nothing malformed describes a step, by induction on the place of the fault. -/
theorem MalformedStep.not_describes (malformed : MalformedStep data) (step : Step) :
    ¬ Describes data step := by
  induction malformed generalizing step with
  | shapeless shapeless =>
      rintro ⟨⟩
      all_goals exact shapeless _ rfl
  | kind strange => exact fun describes => strange step describes.kind
  | test kind given present ill =>
      intro describes
      obtain ⟨target, test, onTrue, onFalse, rfl⟩ := describes.of_condition kind
      cases describes with
      | plain _ flat => exact flat.1 rfl
      | condition _ tests =>
          rw [given] at tests
          exact ill (tests.formed present)
  | branch kind named given unlisted =>
      intro describes
      obtain ⟨target, test, onTrue, onFalse, rfl⟩ := describes.of_condition kind
      obtain ⟨branch, each⟩ := describes.branch named
      rw [given] at each
      obtain ⟨items, same⟩ := each.listed
      exact unlisted items same
  | inBranch kind named given member _ ih =>
      intro describes
      obtain ⟨target, test, onTrue, onFalse, rfl⟩ := describes.of_condition kind
      obtain ⟨branch, each⟩ := describes.branch named
      rw [given] at each
      obtain ⟨inner, -, described⟩ := each.describes_of_mem member
      exact ih inner described
  | body kind given present unlisted =>
      intro describes
      obtain ⟨target, list, body, rfl⟩ := describes.of_loop kind
      obtain ⟨steps, each⟩ := describes.body given present
      obtain ⟨items, same⟩ := each.listed
      exact unlisted items same
  | inBody kind given member _ ih =>
      intro describes
      obtain ⟨target, list, body, rfl⟩ := describes.of_loop kind
      obtain ⟨steps, each⟩ := describes.body given nofun
      obtain ⟨inner, -, described⟩ := each.describes_of_mem member
      exact ih inner described

end Steps

section Definitions

variable {entries : Fields} {found : Definition}

/-- The condition that a trigger keeps: none where the data have none or null, else the expression
itself, which compiles. -/
inductive Keeps : Option Value → Option Fields → Prop
  | absent : Keeps none none
  | null : Keeps (some .null) none
  | compiling {fields : Fields} {tree : Condition}
      (read : Condition.ofValue (.obj fields) = .ok tree) : Keeps (some (.obj fields)) (some fields)

theorem Keeps.compiles {given : Option Value} {condition : Fields}
    (keeps : Keeps given (some condition)) :
    ∃ tree, Condition.ofValue (.obj condition) = .ok tree := by
  cases keeps with
  | compiling read => exact ⟨_, read⟩

/-- A trigger keeps no expression that is not well-formed. -/
theorem Keeps.formed {expression : Value} {condition : Option Fields}
    (keeps : Keeps (some expression) condition) (present : expression ≠ .null) :
    Condition.Formed expression := by
  cases keeps with
  | null => exact absurd rfl present
  | @compiling fields tree read =>
      have reads := Condition.ofValue_reads (.obj fields)
      rw [read] at reads
      exact reads.1

theorem optional_condition_keeps {condition : Option Fields}
    (read : Read.optional entries "condition" triggerCondition = .valid condition) :
    Keeps (entries.get? "condition") condition := by
  rw [Read.optional, fieldD_eq_valid_iff, given?_singleton] at read
  cases given : entries.get? "condition" with
  | none =>
      rw [given] at read
      cases read
      exact .absent
  | some data =>
      rw [given] at read
      have read : Read.nullable triggerCondition data = .valid condition := read
      unfold Read.nullable at read
      split at read
      · cases read
        exact .null
      · obtain ⟨fields, kept, rfl⟩ := Checked.map_method_eq_valid_iff.mp read
        unfold triggerCondition at kept
        split at kept
        next expression =>
          obtain ⟨tree, compiled, rfl⟩ := Checked.map_method_eq_valid_iff.mp kept
          exact .compiling (test_eq_valid_iff.mp compiled)
        next => cases kept

/-- What was read of a definition: its trigger, from the data of one, and its steps. -/
theorem definition_eq_valid (read : Workflow.definition (.obj entries) = .valid found) :
    ReadsAs Workflow.trigger {} (entries.get? "trigger") found.trigger ∧
      DescribesAll (entries.get? "steps") found.steps := by
  unfold Workflow.definition at read
  simp only [Checked.seq_eq_valid_iff, Checked.map_eq_valid_iff] at read
  obtain ⟨_, retries, ⟨_, enabled, ⟨_, steps, ⟨_, trigger, ⟨_, description, ⟨name, -, rfl⟩, -, rfl⟩,
    triggered, rfl⟩, listed, rfl⟩, -, rfl⟩, -, rfl⟩ := read
  rw [fieldD_eq_valid_iff, given?_singleton] at triggered listed
  refine ⟨triggered, ?_⟩
  cases given : entries.get? "steps" with
  | none =>
      rw [given] at listed
      cases listed
      exact .absent
  | some data =>
      rw [given] at listed
      exact steps_describe data listed

/-- A trigger is read from an object and keeps the condition there. -/
theorem trigger_keeps {data : Value} {trigger : Trigger}
    (read : Workflow.trigger data = .valid trigger) :
    ∃ entries, data = .obj entries ∧ Keeps (Fields.get? entries "condition") trigger.condition := by
  unfold Workflow.trigger at read
  split at read
  next entries =>
    simp only [Checked.seq_eq_valid_iff, Checked.map_eq_valid_iff] at read
    obtain ⟨_, schedule, ⟨_, webhook, ⟨_, condition, ⟨_, event, ⟨entity, -, rfl⟩, -, rfl⟩, kept, rfl⟩,
      -, rfl⟩, -, rfl⟩ := read
    exact ⟨entries, rfl, optional_condition_keeps kept⟩
  next => cases read

theorem definition_condition_compiles (read : Workflow.definition (.obj entries) = .valid found)
    {condition : Fields} (kept : found.trigger.condition = some condition) :
    ∃ tree, Condition.ofValue (.obj condition) = .ok tree := by
  obtain ⟨triggered, -⟩ := definition_eq_valid read
  cases given : entries.get? "trigger" with
  | none =>
      rw [given] at triggered
      have same : found.trigger = {} := triggered
      rw [same] at kept
      cases kept
  | some data =>
      rw [given] at triggered
      obtain ⟨fields, rfl, keeps⟩ := trigger_keeps triggered
      rw [kept] at keeps
      exact keeps.compiles

/-- What was read is not malformed. -/
theorem Malformed.not_valid {data : Value} (malformed : Malformed data) :
    Workflow.definition data ≠ .valid found := by
  intro read
  cases malformed with
  | step given member malformed =>
      obtain ⟨-, each⟩ := definition_eq_valid read
      rw [given] at each
      obtain ⟨step, -, describes⟩ := each.describes_of_mem member
      exact malformed.not_describes step describes
  | @trigger entries trigger expression given conditional present ill =>
      obtain ⟨triggered, -⟩ := definition_eq_valid read
      rw [given] at triggered
      obtain ⟨fields, same, keeps⟩ := trigger_keeps triggered
      cases same
      rw [conditional] at keeps
      exact ill (keeps.formed present)

end Definitions

end Workflow

/-- Whether a workflow listens for a change is decided if the condition of its trigger compiles. -/
theorem Routing.Change.fits_decides (change : Routing.Change) {workflow : Definition}
    (compiles : ∀ condition, workflow.trigger.condition = some condition →
      ∃ tree, Condition.ofValue (.obj condition) = .ok tree) :
    ∃ verdict, change.fits workflow = .ok verdict := by
  unfold Routing.Change.fits
  dsimp only
  split
  · exact ⟨false, rfl⟩
  · split
    next => exact ⟨true, rfl⟩
    next => exact ⟨true, rfl⟩
    next condition _ kept =>
      obtain ⟨tree, compiled⟩ := compiles condition kept
      rw [compiled]
      exact ⟨_, rfl⟩

open Execution in
/-- Reading a definition refuses data that are malformed, in the one way there is to refuse, and what
it accepts cannot turn out malformed later. -/
theorem Definition.ofValue_leaves_nothing_malformed (data : Value) :
    match Definition.ofValue data with
    | .error failure => failure.name = "WorkflowDefinitionError"
    | .ok definition =>
      ¬ Workflow.Malformed data ∧
      (∃ entries, data = .obj entries ∧
        Workflow.DescribesAll (Fields.get? entries "steps") definition.steps) ∧
      (∀ condition, definition.trigger.condition = some condition →
        ∃ tree, Condition.ofValue (.obj condition) = .ok tree) ∧
      (∀ change : Routing.Change, ∃ verdict, change.fits definition = .ok verdict) ∧
      ∀ collaborators context log result last failure,
        Talks (runWorkflow collaborators definition context) log (result, last) →
        result.outcome = .error failure → failure.TellsOfDefect → Answered log failure := by
  unfold Definition.ofValue
  cases read : Workflow.definition data with
  | invalid first rest => rfl
  | valid definition =>
      cases data with
      | obj entries =>
          have compiles : ∀ condition, definition.trigger.condition = some condition →
              ∃ tree, Condition.ofValue (.obj condition) = .ok tree :=
            fun _ => Workflow.definition_condition_compiles read
          refine ⟨fun malformed => malformed.not_valid read,
            ⟨entries, rfl, (Workflow.definition_eq_valid read).2⟩, compiles,
            fun change => change.fits_decides compiles, ?_⟩
          intro collaborators context log result last failure talks failed tells
          rcases talks_runWorkflow_ordinary talks failed with ordinary | answered
          · exact absurd tells ordinary
          · exact answered
      | _ => cases read

end Orchestra
