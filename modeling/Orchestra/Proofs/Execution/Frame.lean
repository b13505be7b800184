import Orchestra.Execution.Run
import Orchestra.Proofs.Talk
import Orchestra.Proofs.Execution.Effect

/-!
What a run leaves alone.

Steps change nothing of a context but its variables, whatever the collaborators answer, and every
change of a record is reported with the place in the cascade that the run started with.
-/

namespace Orchestra

/-- A context but for its variables. -/
def Context.frame (context : Context) : Context :=
  { context with bindings := .root [] }

namespace Execution

/-- A report names the workflow and the depth that the run started with. -/
structure Attributed (frame : Context) (news : EntityReport) : Prop where
  source : news.sourceWorkflow =
    if frame.cascade.sourceWorkflow.truthy then frame.cascade.sourceWorkflow else .str "unknown"
  depth : news.depth = frame.cascade.depth

/-- A question is asked in a context with the frame of the run. -/
structure Question.Fits (frame : Context) (question : Question) : Prop where
  same : question.context.frame = frame
  report : ∀ news, question.call = .report news → Attributed frame news

namespace Activity

variable {α β : Type}

/-- Whatever the answers are, an activity keeps all of a context but its variables. -/
def Steady (activity : Activity α) : Prop :=
  ∀ context, (activity context).Always (Question.Fits context.frame)
    fun result => result.2.frame = context.frame

theorem Steady.pure (value : α) : Steady (Activity.pure value) :=
  fun _ => rfl

theorem Steady.fail (failure : Failure) : Steady (Activity.fail failure : Activity α) :=
  fun _ => rfl

theorem Steady.context : Steady Activity.context :=
  fun _ => rfl

theorem Steady.assign (name : String) (value : Value) : Steady (Activity.assign name value) :=
  fun _ => rfl

theorem Steady.bind {first : Activity α} {second : α → Activity β} (steady : Steady first)
    (after : ∀ value, Steady (second value)) : Steady (first >>= second) := by
  intro context
  refine (steady context).bind ?_
  rintro ⟨_ | value, last⟩ same
  · exact same
  · have later := after value last
    rwa [show last.frame = context.frame from same] at later

theorem Steady.ask {call : Call} (silent : ∀ news, call ≠ .report news) :
    Steady (Activity.ask call) :=
  fun _ => ⟨⟨rfl, fun news same => (silent news same).elim⟩, fun _ => rfl⟩

theorem Steady.attempt {activity : Activity α} (steady : Steady activity) :
    Steady (Activity.attempt activity) :=
  fun context => (steady context).map fun _ same => same

theorem Steady.within {activity : Activity α} (item : Value) (index : Nat)
    (steady : Steady activity) : Steady (Activity.within item index activity) :=
  fun context => (steady (context.iterate item index)).map fun _ same => same

/-- What asks nothing keeps the context. -/
theorem Silent.steady {activity : Activity α} (silent : Silent activity) : Steady activity := by
  intro context
  obtain ⟨outcome, same⟩ := silent context
  rw [same]
  rfl

end Activity

open Activity

section Steps

variable {collaborators : Collaborators}

/-- A report carries the source and the depth of the context in which it is made. -/
theorem announce_steady (entity : String) (event : EntityEvent) (before after : Value) :
    Steady (announce collaborators entity event before after) := by
  unfold announce
  split
  · intro context
    refine ⟨⟨rfl, ?_⟩, fun _ => rfl⟩
    rintro _ ⟨⟩
    exact ⟨rfl, rfl⟩
  · exact .pure ()

theorem readBefore_steady (entity id : String) : Steady (readBefore entity id) := by
  refine .bind (.attempt (.ask (by simp))) fun outcome => ?_
  cases outcome with
  | error => exact .pure _
  | ok record => exact .pure record

theorem effect_steady {effect : Effect} {step : Step} (suits : effect.Suits step) :
    Steady (effect.activity collaborators) := by
  cases effect with
  | refuse failure => exact .fail failure
  | consult call value =>
      refine fun _ => ⟨⟨rfl, ?_⟩, fun _ => rfl⟩
      rintro news rfl
      exact suits.1.elim
  | alter alteration =>
      refine .bind ?_ fun before =>
        .bind (.ask (by cases alteration <;> simp [Alteration.call])) fun record =>
          .bind (announce_steady _ _ _ _) fun _ => .pure record
      unfold Alteration.look
      split
      · exact .pure _
      · exact readBefore_steady _ _

/-- A step without steps in it keeps what its effects keep. -/
theorem leaf_steady (collaborators : Collaborators) (step : Step) {activity : Activity Value}
    (own : leafActivity? collaborators step = some activity) : Steady activity := by
  intro context
  obtain ⟨effect, suits, same⟩ := leafActivity?_comes context own
  rw [same]
  exact effect_steady suits context

theorem bound_steady (target : Option String) {activity : Activity Value}
    (steady : Steady activity) : Steady (bound target activity) := by
  refine .bind steady fun outcome => ?_
  split
  · exact .bind (.assign _ _) fun _ => .pure outcome
  · exact .pure outcome

/-- Induction on the items: every iteration hands on the frame it was given. -/
theorem forEach_steady {body : Activity (List Value)} (steady : Steady body) (index : Nat)
    (items : List Value) : Steady (forEach body index items) := by
  induction items generalizing index with
  | nil => exact .pure []
  | cons item rest ih =>
      exact .bind (.within item index steady) fun _ => .bind (ih (index + 1)) fun _ => .pure _

mutual

theorem runStep_steady (collaborators : Collaborators) :
    (step : Step) → Steady (runStep collaborators step)
  | .query target query =>
      bound_steady target (leaf_steady collaborators (.query target query) rfl)
  | .email target email =>
      bound_steady target (leaf_steady collaborators (.email target email) rfl)
  | .webhook target webhook =>
      bound_steady target (leaf_steady collaborators (.webhook target webhook) rfl)
  | .plugin target call =>
      bound_steady target (leaf_steady collaborators (.plugin target call) rfl)
  | .notify target notice =>
      bound_steady target (leaf_steady collaborators (.notify target notice) rfl)
  | .delay target duration =>
      bound_steady target (leaf_steady collaborators (.delay target duration) rfl)
  | .condition target test onTrue onFalse => by
      refine bound_steady target (.bind (Silent.require _ _).steady fun test =>
        .bind .context fun context => ?_)
      dsimp only
      split
      · exact .bind (runSteps_steady collaborators onTrue) fun _ => .pure _
      · exact .bind (runSteps_steady collaborators onFalse) fun _ => .pure _
  | .loop target items none =>
      bound_steady target (.bind (Silent.require _ _).steady fun _ => .fail _)
  | .loop target items (some body) =>
      bound_steady target (.bind (Silent.require _ _).steady fun items =>
        .bind (loopItems_silent items).steady fun found =>
          .bind (forEach_steady (runSteps_steady collaborators body) 0 found) fun _ => .pure _)

theorem runSteps_steady (collaborators : Collaborators) :
    (steps : List Step) → Steady (runSteps collaborators steps)
  | [] => .pure []
  | step :: rest =>
      .bind (runStep_steady collaborators step) fun _ =>
        .bind (runSteps_steady collaborators rest) fun _ => .pure _

end

end Steps

section Runs

theorem startedBy_depth (context : Context) (workflow : String) :
    (context.startedBy workflow).cascade.depth = context.cascade.depth := by
  unfold Context.startedBy
  split <;> rfl

theorem runFrom_frame (collaborators : Collaborators) (position : Nat) (steps : List Step)
    (context : Context) :
    (runFrom collaborators position steps context).Always (Question.Fits context.frame)
      fun result => result.2.frame = context.frame := by
  induction steps generalizing position context with
  | nil => rfl
  | cons step rest ih =>
      refine (runStep_steady collaborators step context).bind ?_
      rintro ⟨_ | _, last⟩ same
      · exact same
      · have same : last.frame = context.frame := same
        have later := ih (position + 1) last
        rw [same] at later
        exact later.map fun _ same => same

/-- A run keeps all of its context but the variables, once it has named its workflow in it. -/
theorem runWorkflow_frame (collaborators : Collaborators) (workflow : Definition)
    (context : Context) :
    (runWorkflow collaborators workflow context).Always
      (Question.Fits (context.startedBy workflow.name).frame)
      fun result => result.2.frame = (context.startedBy workflow.name).frame := by
  refine (runFrom_frame ..).map ?_
  rintro ⟨⟨_, _ | _⟩, last⟩ same
  · exact same
  · exact same

end Runs

end Execution

end Orchestra
