import Orchestra.Proofs.Execution.Frame
import Orchestra.Proofs.Execution.Performance

/-!
Runs in parts.

A list of steps runs as its first part and then, if that went well, as the rest. A condition step
without a variable does what the branch that it chooses would do in its place. A run always comes to
a result, and its trail names the steps that were started and how the run ended.
-/

namespace Orchestra

/-- The workflow with other steps. -/
def Definition.withSteps (workflow : Definition) (steps : List Step) : Definition :=
  { workflow with steps }

namespace Execution

namespace Activity

variable {α β γ : Type}

theorem bind_assoc (first : Activity α) (second : α → Activity β) (third : β → Activity γ) :
    (first >>= second) >>= third = first >>= fun value => second value >>= third := by
  funext context
  show ((first context).bind _).bind _ = (first context).bind _
  rw [Program.bind_assoc]
  congr 1
  funext result
  obtain ⟨_ | value, last⟩ := result
  · rfl
  · rfl

@[simp] theorem pure_bind (value : α) (second : α → Activity β) :
    Activity.pure value >>= second = second value := rfl

theorem bind_pure (activity : Activity α) : activity >>= Activity.pure = activity := by
  funext context
  refine Eq.trans ?_ (Program.bind_done_right (activity context))
  show (activity context).bind _ = _
  congr 1
  funext result
  obtain ⟨_ | value, last⟩ := result
  · rfl
  · rfl

/-- An activity without its value. -/
def effect (activity : Activity α) : Activity Unit :=
  activity >>= fun _ => Activity.pure ()

/-- What does not look at a value depends on the effect alone. -/
theorem effect_bind (activity : Activity α) (second : Activity β) :
    (activity >>= fun _ => second) = activity.effect >>= fun _ => second := by
  unfold effect
  rw [bind_assoc]
  rfl

theorem bind_effect (first : Activity α) (second : α → Activity β) :
    (first >>= second).effect = first >>= fun value => (second value).effect := by
  unfold effect
  rw [bind_assoc]

/-- How an activity ends when it is all of a run: with the variables, or with its failure. -/
def ending (activity : Activity α) (context : Context) :
    Program conversation (Except Failure Fields × Context) :=
  (activity context).map fun (outcome, last) => (outcome.map fun _ => last.bindings.entries, last)

theorem ending_effect (activity : Activity α) : activity.effect.ending = activity.ending := by
  funext context
  show ((activity context).bind _).map _ = (activity context).map _
  rw [Program.bind_map]
  show _ = (activity context).bind _
  congr 1
  funext result
  obtain ⟨_ | value, last⟩ := result
  · rfl
  · rfl

/-- One activity after the other ends as the first that fails, or else as the second. -/
theorem ending_bind (first : Activity α) (second : Activity β) (context : Context) :
    (first >>= fun _ => second).ending context = (first.ending context).bind fun
      | (.error failure, left) => .done (.error failure, left)
      | (.ok _, left) => second.ending left := by
  show ((first context).bind _).map _ = ((first context).map _).bind _
  rw [Program.bind_map, Program.map_bind]
  congr 1
  funext result
  obtain ⟨_ | value, last⟩ := result
  · rfl
  · rfl

end Activity

open Activity

section Lists

variable (collaborators : Collaborators)

/-- Two lists of steps run one after the other. -/
theorem runSteps_append (first second : List Step) :
    runSteps collaborators (first ++ second) = runSteps collaborators first >>= fun early =>
      runSteps collaborators second >>= fun late => Activity.pure (early ++ late) := by
  induction first with
  | nil => exact (bind_pure _).symm
  | cons step rest ih =>
      have unfolds (steps : List Step) : runSteps collaborators (step :: steps) =
          runStep collaborators step >>= fun value =>
            runSteps collaborators steps >>= fun values => Activity.pure (value :: values) := rfl
      rw [List.cons_append, unfolds, unfolds, ih, bind_assoc]
      congr 1
      funext value
      rw [bind_assoc, bind_assoc]
      congr 1
      funext early
      rw [bind_assoc]
      rfl

theorem runSteps_append_effect (first second : List Step) :
    (runSteps collaborators (first ++ second)).effect =
      runSteps collaborators first >>= fun _ => (runSteps collaborators second).effect := by
  rw [runSteps_append, bind_effect]
  congr 1
  funext early
  rw [bind_effect]
  rfl

/-- A step between others. -/
theorem runSteps_around (before after : List Step) (step : Step) :
    runSteps collaborators (before ++ step :: after) = runSteps collaborators before >>= fun early =>
      runStep collaborators step >>= fun value =>
        runSteps collaborators after >>= fun late => Activity.pure (early ++ value :: late) := by
  rw [runSteps_append]
  congr 1
  funext early
  show (runStep collaborators step >>= _) >>= _ = _
  rw [bind_assoc]
  congr 1
  funext value
  rw [bind_assoc]
  rfl

end Lists

section Places

/-- A condition step over any two branches. -/
def branching (target : Option String) (test : Option Condition)
    (onTrue onFalse : Activity (List Value)) : Activity Value := bound target do
  let test ← require test "Condition step requires if"
  let _ ← if test.evaluate (← Activity.context).toValue then onTrue else onFalse
  return .null

/-- A loop over any body. -/
def looping (target : Option String) (items : Option Value) (body : Activity (List Value)) :
    Activity Value := bound target do
  let items ← require items "Loop step requires items"
  return .list (← forEach body 0 (← loopItems items))

/-- An activity between steps that run before and after it. -/
def between (collaborators : Collaborators) (before after : List Step) (middle : Activity Value) :
    Activity (List Value) := do
  let early ← runSteps collaborators before
  let value ← middle
  let late ← runSteps collaborators after
  return early ++ value :: late

/-- Where a list of steps stands in a workflow: it is all of it, or one of the branches of a
condition step, or the body of a loop. -/
inductive Place where
  | whole
  | branch (outer : Place) (before : List Step) (target : Option String) (test : Option Condition)
      (taken : Bool) (other : List Step) (after : List Step)
  | body (outer : Place) (before : List Step) (target : Option String) (items : Option Value)
      (after : List Step)

namespace Place

/-- The workflow with steps at a place. -/
def fill : Place → List Step → List Step
  | .whole, steps => steps
  | .branch outer before target test taken other after, steps =>
    outer.fill (before ++
      .condition target test (if taken then steps else other) (if taken then other else steps)
        :: after)
  | .body outer before target items after, steps =>
    outer.fill (before ++ .loop target items (some steps) :: after)

/-- What a workflow does with an activity at a place. -/
def around (collaborators : Collaborators) : Place → Activity (List Value) → Activity (List Value)
  | .whole, inner => inner
  | .branch outer before target test taken other after, inner =>
    outer.around collaborators (between collaborators before after
      (branching target test (if taken then inner else runSteps collaborators other)
        (if taken then runSteps collaborators other else inner)))
  | .body outer before target items after, inner =>
    outer.around collaborators (between collaborators before after (looping target items inner))

/-- The steps at the place are themselves the body of a loop. -/
def IsBody : Place → Prop
  | .body .. => True
  | _ => False

variable (collaborators : Collaborators)

/-- A workflow with steps at a place does there what the steps do. -/
theorem runSteps_fill (place : Place) (steps : List Step) :
    runSteps collaborators (place.fill steps) =
      place.around collaborators (runSteps collaborators steps) := by
  induction place generalizing steps with
  | whole => rfl
  | branch outer before target test taken other after ih =>
      rw [fill, around, ih, runSteps_around]
      cases taken with
      | false => rfl
      | true => rfl
  | body outer before target items after ih =>
      rw [fill, around, ih, runSteps_around]
      cases items with
      | none => rfl
      | some items => rfl

end Place

theorem branching_congr (target : Option String) (test : Option Condition)
    {onTrue onFalse yes no : Activity (List Value)} (same : onTrue.effect = yes.effect)
    (also : onFalse.effect = no.effect) :
    branching target test onTrue onFalse = branching target test yes no := by
  have unfolds (yes no : Activity (List Value)) : branching target test yes no =
      bound target (require test "Condition step requires if" >>= fun test =>
        Activity.context >>= fun context =>
          if test.evaluate context.toValue then yes >>= fun _ => Activity.pure .null
          else no >>= fun _ => Activity.pure .null) := rfl
  have discards (activity : Activity (List Value)) :
      (activity >>= fun _ => Activity.pure Value.null) =
        activity.effect >>= fun _ => Activity.pure Value.null := effect_bind activity _
  rw [unfolds, unfolds, discards onTrue, discards onFalse, discards yes, discards no, same, also]

/-- Where no loop collects them, the outcomes of steps do not matter to what is around. -/
theorem Place.around_congr {collaborators : Collaborators} {place : Place} (plain : ¬ place.IsBody)
    {inner other : Activity (List Value)} (same : inner.effect = other.effect) :
    (place.around collaborators inner).effect = (place.around collaborators other).effect := by
  cases place with
  | whole => exact same
  | branch outer before target test taken steps after =>
      unfold Place.around
      cases taken with
      | true =>
          simp only [reduceIte]
          rw [branching_congr target test same rfl]
      | false =>
          simp only [Bool.false_eq_true, reduceIte]
          rw [branching_congr target test rfl same]
  | body => exact absurd trivial plain

end Places

section Splices

variable {collaborators : Collaborators}

/-- The branch that a condition chooses in a context. -/
def chosen (test : Condition) (onTrue onFalse : List Step) (context : Context) : List Step :=
  if test.evaluate context.toValue then onTrue else onFalse

/-- Steps, and then the branch that a condition chooses at that point together with what follows. -/
def spliced (collaborators : Collaborators) (before : List Step) (test : Condition)
    (onTrue onFalse after : List Step) : Activity (List Value) := do
  let early ← runSteps collaborators before
  let late ← runSteps collaborators (chosen test onTrue onFalse (← Activity.context) ++ after)
  return early ++ late

theorem bound_none {target : Option String} (unbound : nonEmpty target = none)
    (activity : Activity Value) : bound target activity = activity := by
  unfold bound
  rw [unbound]
  exact bind_pure activity

/-- A condition step without a variable has the effect of its branch in its place. -/
theorem condition_effect {target : Option String} (unbound : nonEmpty target = none)
    (before : List Step) (test : Condition) (onTrue onFalse after : List Step) :
    (runSteps collaborators (before ++ .condition target (some test) onTrue onFalse :: after)).effect =
      (spliced collaborators before test onTrue onFalse after).effect := by
  unfold spliced
  rw [runSteps_around, runStep_condition, bound_none unbound, bind_effect, bind_effect]
  congr 1
  funext early
  rw [bind_effect, bind_effect, bind_assoc]
  congr 1
  funext context
  rw [bind_effect, bind_assoc, runSteps_append, bind_assoc]
  show (runSteps collaborators (chosen test onTrue onFalse context) >>= fun _ => _) = _
  congr 1
  funext inside
  rw [pure_bind, bind_effect, bind_assoc]
  rfl

end Splices

section Runs

variable {collaborators : Collaborators}

/-- The failure of an outcome. -/
def failure? {α : Type} : Except Failure α → Option Failure
  | .ok _ => none
  | .error failure => some failure

/-- Steps that are counted fail as they do without. -/
theorem runFrom_map (collaborators : Collaborators) (position : Nat) (steps : List Step)
    (context : Context) :
    ((runFrom collaborators position steps context).map fun ((_, failure), last) =>
        (failure, last)) =
      (runSteps collaborators steps context).map fun (outcome, last) => (failure? outcome, last) := by
  induction steps generalizing position context with
  | nil => rfl
  | cons step rest ih =>
      rw [runFrom, Program.bind_map]
      show _ = Program.map _ ((runStep collaborators step context).bind _)
      rw [Program.bind_map]
      congr 1
      funext result
      obtain ⟨failure | value, middle⟩ := result
      · rfl
      · have rest_same := ih (position + 1) middle
        show Program.map _ (Program.map _ _) =
          Program.map _ ((runSteps collaborators rest middle).bind _)
        rw [Program.map_map, Program.bind_map]
        refine Eq.trans (Eq.trans ?_ rest_same) ?_
        · congr 1
        · unfold Program.map
          congr 1
          funext result
          obtain ⟨_ | _, _⟩ := result
          · rfl
          · rfl

/-- How a run ended, and the context that it left. -/
def RunResult.ended (result : RunResult × Context) : Except Failure Fields × Context :=
  (result.1.outcome, result.2)

/-- A run ends as its steps do in the context that names its workflow. -/
theorem runWorkflow_ended (workflow : Definition) (context : Context) :
    (runWorkflow collaborators workflow context).map RunResult.ended =
      (runSteps collaborators workflow.steps).ending (context.startedBy workflow.name) := by
  have counted := runFrom_map collaborators 1 workflow.steps (context.startedBy workflow.name)
  have ended := congrArg (Program.map fun left : Option Failure × Context =>
    (left.1.elim (.ok left.2.bindings.entries) Except.error, left.2)) counted
  rw [Program.map_map, Program.map_map] at ended
  unfold runWorkflow Activity.ending
  rw [Program.map_map]
  refine Eq.trans (Eq.trans ?_ ended) ?_
  · congr 1
    funext result
    obtain ⟨⟨_, _ | _⟩, _⟩ := result
    · rfl
    · rfl
  · congr 1
    funext result
    obtain ⟨_ | _, _⟩ := result
    · rfl
    · rfl

/-- A workflow is named once. -/
theorem startedBy_eq_self {context : Context} (workflow : String)
    (named : context.cascade.sourceWorkflow ≠ .null) : context.startedBy workflow = context := by
  unfold Context.startedBy
  split
  next null => exact absurd null named
  next => rfl

theorem startedBy_named (context : Context) (workflow : String) :
    (context.startedBy workflow).cascade.sourceWorkflow ≠ .null := by
  unfold Context.startedBy
  split
  · simp
  · assumption

/-- The steps of a run leave its workflow named. -/
theorem ending_named (steps : List Step) (context : Context) (workflow : String) :
    ((runSteps collaborators steps).ending (context.startedBy workflow)).Always (fun _ => True)
      fun ended => ended.2.cascade.sourceWorkflow ≠ .null := by
  have steady := runSteps_steady collaborators steps (context.startedBy workflow)
  refine (steady.mono (fun _ _ => trivial) fun _ same => same).map ?_
  rintro ⟨outcome, last⟩ same
  have kept := congrArg Context.cascade (show last.frame = (context.startedBy workflow).frame from same)
  show last.frame.cascade.sourceWorkflow ≠ .null
  rw [kept]
  exact startedBy_named context workflow

/-- A run of two lists of steps is a run of the first and, if it went well, one of the second. -/
theorem runWorkflow_append (workflow : Definition) (first second : List Step) (context : Context) :
    (runWorkflow collaborators (workflow.withSteps (first ++ second)) context).map
        RunResult.ended =
      ((runWorkflow collaborators (workflow.withSteps first) context).map
          RunResult.ended).bind fun
        | (.error failure, left) => .done (.error failure, left)
        | (.ok _, left) =>
          (runWorkflow collaborators (workflow.withSteps second) left).map
            RunResult.ended := by
  rw [runWorkflow_ended, runWorkflow_ended]
  show (runSteps collaborators (first ++ second)).ending _ = _
  rw [← ending_effect, runSteps_append_effect, ending_bind]
  refine (ending_named first context workflow.name).bind_congr ?_
  rintro ⟨_ | _, left⟩ named
  · rfl
  · show (runSteps collaborators second).effect.ending left = Program.map RunResult.ended _
    rw [ending_effect, runWorkflow_ended]
    show _ = (runSteps collaborators second).ending (left.startedBy workflow.name)
    rw [startedBy_eq_self workflow.name named]

/-- A condition step without a variable, that does not stand in the body of a loop itself, does in a
run what its branch would do in its place. -/
theorem runWorkflow_spliced (workflow : Definition) {place : Place} (plain : ¬ place.IsBody)
    {target : Option String} (unbound : nonEmpty target = none) (before : List Step)
    (test : Condition) (onTrue onFalse after : List Step) (context : Context) :
    (runWorkflow collaborators (workflow.withSteps
        (place.fill (before ++ .condition target (some test) onTrue onFalse :: after))) context).map
          RunResult.ended =
      (place.around collaborators (spliced collaborators before test onTrue onFalse after)).ending
        (context.startedBy workflow.name) := by
  rw [runWorkflow_ended]
  show (runSteps collaborators (place.fill _)).ending _ = _
  rw [Place.runSteps_fill, ← ending_effect,
    Place.around_congr plain (condition_effect unbound before test onTrue onFalse after),
    ending_effect]
  rfl

end Runs

section Trails

variable {collaborators : Collaborators} {context last : Context} {log : List RunTurn}

/-- The entries of steps that were started, counted from a position on. -/
def trail (position : Nat) (started : List Step) : List LogEntry :=
  (started.zipIdx position).map fun (step, position) => LogEntry.stepStarted position step

/-- The steps that were started in a row: all of them if they went well, else those that did and the
one that failed; nothing is asked for the others. -/
inductive Starts (collaborators : Collaborators) (context : Context) :
    List Step → List RunTurn → Except Failure Unit → Context → List Step → Prop
  | all {steps : List Step} {log : List RunTurn} {values : List Value} {last : Context}
      (passed : Talks (runSteps collaborators steps context) log (.ok values, last)) :
      Starts collaborators context steps log (.ok ()) last steps
  | upTo {before after : List Step} {step : Step} {front back : List RunTurn}
      {values : List Value} {middle last : Context} {failure : Failure}
      (passed : Talks (runSteps collaborators before context) front (.ok values, middle))
      (failed : Talks (runStep collaborators step middle) back (.error failure, last)) :
      Starts collaborators context (before ++ step :: after) (front ++ back) (.error failure) last
        (before ++ [step])

/-- A step that went well stands before those that are started after it. -/
theorem Starts.cons {step : Step} {steps started : List Step} {front back : List RunTurn}
    {value : Value} {middle : Context} {outcome : Except Failure Unit}
    (first : Talks (runStep collaborators step context) front (.ok value, middle))
    (starts : Starts collaborators middle steps back outcome last started) :
    Starts collaborators context (step :: steps) (front ++ back) outcome last (step :: started) := by
  cases starts with
  | all passed =>
      exact .all (talks_steps_iff.mpr (.inr ⟨value, middle, front, back, _, rfl, rfl, first, passed⟩))
  | @upTo before after failing early late _ _ _ _ passed failed =>
      have together := talks_steps_iff.mpr
        (.inr ⟨value, middle, front, early, _, rfl, rfl, first, passed⟩)
      rw [← List.append_assoc, ← List.cons_append, ← List.cons_append]
      exact .upTo together failed

/-- Induction on the steps: each that is started leaves its entry. -/
theorem talks_runFrom_starts {position : Nat} {steps : List Step} {entries : List LogEntry}
    {failed : Option Failure}
    (talks : Talks (runFrom collaborators position steps context) log ((entries, failed), last)) :
    ∃ started, Starts collaborators context steps log
        (match failed with
          | none => .ok ()
          | some failure => .error failure) last started ∧
      entries = trail position started := by
  induction steps generalizing position context log entries with
  | nil =>
      obtain ⟨rfl, ⟨⟩⟩ := talks_done_iff.mp talks
      exact ⟨[], .all (.done _), rfl⟩
  | cons step rest ih =>
      obtain ⟨front, ⟨failure | value, middle⟩, back, rfl, first, later⟩ :=
        Orchestra.talks_bind_iff.mp talks
      · obtain ⟨rfl, ⟨⟩⟩ := talks_done_iff.mp later
        have idle : Talks (runSteps collaborators [] context) [] (.ok [], context) := .done _
        rw [List.append_nil]
        exact ⟨[step], .upTo idle first, rfl⟩
      · obtain ⟨⟨⟨others, ended⟩, _⟩, after, ⟨⟩⟩ := talks_map_iff.mp later
        obtain ⟨started, starts, rfl⟩ := ih after
        exact ⟨step :: started, .cons first starts, rfl⟩

/-- The last entry of a run tells how it ended. -/
def lastEntry {α : Type} : Except Failure α → LogEntry
  | .ok _ => .completed
  | .error failure => .failed failure

/-- The trail of a run: its start, the steps that were started, and how it ended. -/
theorem talks_runWorkflow_logs {workflow : Definition} {result : RunResult}
    (talks : Talks (runWorkflow collaborators workflow context) log (result, last)) :
    ∃ started, Starts collaborators (context.startedBy workflow.name) workflow.steps log
        (result.outcome.map fun _ => ()) last started ∧
      result.logs = .started workflow.name :: trail 1 started ++ [lastEntry result.outcome] := by
  obtain ⟨⟨⟨entries, failed⟩, _⟩, inside, same⟩ := talks_map_iff.mp talks
  obtain ⟨started, starts, rfl⟩ := talks_runFrom_starts inside
  cases failed with
  | none =>
      cases same
      exact ⟨started, starts, rfl⟩
  | some failure =>
      cases same
      exact ⟨started, starts, rfl⟩

end Trails

/-- Runs compose: a run of steps and more steps is a run of the first and, unless that failed, one of
the others; a condition step acts as its branch in its place; and every run comes to a result whose
trail names the steps that were started and how it ended. -/
theorem runs_compose (collaborators : Collaborators) (workflow : Definition) (context : Context) :
    (∀ first second : List Step,
      (runWorkflow collaborators (workflow.withSteps (first ++ second)) context).map
          RunResult.ended =
        ((runWorkflow collaborators (workflow.withSteps first) context).map
            RunResult.ended).bind fun
          | (.error failure, left) => .done (.error failure, left)
          | (.ok _, left) =>
            (runWorkflow collaborators (workflow.withSteps second) left).map
              RunResult.ended) ∧
      (∀ (place : Place) (target : Option String) (before after onTrue onFalse : List Step)
          (test : Condition), ¬ place.IsBody → nonEmpty target = none →
        (runWorkflow collaborators (workflow.withSteps
            (place.fill (before ++ .condition target (some test) onTrue onFalse :: after)))
            context).map RunResult.ended =
          (place.around collaborators (spliced collaborators before test onTrue onFalse after)).ending
            (context.startedBy workflow.name)) ∧
      (∀ log result last, Talks (runWorkflow collaborators workflow context) log (result, last) →
        ∃ started, Starts collaborators (context.startedBy workflow.name) workflow.steps log
            (result.outcome.map fun _ => ()) last started ∧
          result.logs =
            .started workflow.name :: trail 1 started ++ [lastEntry result.outcome]) ∧
      ∀ (Script : Type) (handler : Question → Script → Answer × Script) (script : Script),
        ∃ log result last,
          Talks (runWorkflow collaborators workflow context) log (result, last) ∧
            ((runWorkflow collaborators workflow context).run handler script).1 =
              (result, last) := by
  refine ⟨fun first second => runWorkflow_append workflow first second context, ?_,
    fun _ _ _ talks => talks_runWorkflow_logs talks, ?_⟩
  · intro place target before after onTrue onFalse test plain unbound
    exact runWorkflow_spliced workflow plain unbound before test onTrue onFalse after context
  · intro Script handler script
    exact ⟨_, _, _, talks_talk handler _ script, rfl⟩

end Execution

end Orchestra
