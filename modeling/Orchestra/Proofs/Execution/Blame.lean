import Orchestra.Execution.Run
import Orchestra.Proofs.Execution.Effect

/-!
Where the failure of a run comes from.

A run fails with a refusal of its own or with the failure that a collaborator answered with. None of
its own refusals tells of a malformed definition: there is no step without a kind, and no test that
does not evaluate.
-/

namespace Orchestra

/-- A failure tells of a malformed definition: of a step of no known kind, or of a condition. -/
def Failure.TellsOfDefect (failure : Failure) : Prop :=
  (∃ kind, failure = .stepInvalid ("Unknown step type: " ++ kind)) ∨ failure.name = "ConditionError"

namespace Failure

/-- A message that starts otherwise does not tell of a step of no known kind. -/
theorem stepInvalid_tells_not {message : String}
    (different : message.toList.take 9 ≠ "Unknown s".toList) :
    ¬ (Failure.stepInvalid message).TellsOfDefect := by
  rintro (⟨kind, same⟩ | named)
  · apply different
    have same : message = "Unknown step type: " ++ kind := Failure.stepInvalid.inj same
    rw [same, String.toList_append]
    rfl
  · have named : "StepValidationError" = "ConditionError" := named
    exact absurd named (by decide)

theorem stepInvalid_append_tells_not {start : String} (rest : String)
    (long : 9 ≤ start.toList.length) (different : start.toList.take 9 ≠ "Unknown s".toList) :
    ¬ (Failure.stepInvalid (start ++ rest)).TellsOfDefect := by
  apply stepInvalid_tells_not
  rw [String.toList_append, List.take_append_of_le_length long]
  exact different

theorem foreign_tells_not (kind : ForeignKind) (message : String) :
    ¬ (Failure.foreign kind message).TellsOfDefect := by
  rintro (⟨_, ⟨⟩⟩ | named)
  have named : kind.name = "ConditionError" := named
  revert named
  cases kind with
  | system fault => cases fault <;> decide
  | stream fault => cases fault <;> decide
  | network fault => cases fault <;> decide
  | domain fault => cases fault <;> simp [ForeignKind.name, Domain.Fault.name]
  | _ => decide

end Failure

namespace Execution

/-- The talk ends in a failure that one of the answers was. -/
def Answered (log : List RunTurn) (failure : Failure) : Prop :=
  ∃ turn ∈ log, turn.answer.outcome = .error failure

namespace Activity

variable {α β : Type} {own : Failure → Prop}

/-- Every failure of an activity is one of its own or the failure of an answer. -/
def FailsBy (own : Failure → Prop) (activity : Activity α) : Prop :=
  ∀ context log failure last, Talks (activity context) log (.error failure, last) →
    own failure ∨ Answered log failure

theorem FailsBy.pure (value : α) : FailsBy own (Activity.pure value) := by
  intro context log failure last talks
  obtain ⟨-, impossible, -⟩ := talks_pure_iff.mp talks
  cases impossible

theorem FailsBy.fail {failure : Failure} (owned : own failure) :
    FailsBy own (Activity.fail failure : Activity α) := by
  intro context log other last talks
  obtain ⟨-, same, -⟩ := talks_fail_iff.mp talks
  cases same
  exact .inl owned

theorem FailsBy.context : FailsBy own Activity.context := by
  intro context log failure last talks
  obtain ⟨-, impossible⟩ := talks_done_iff.mp talks
  cases impossible

theorem FailsBy.assign (name : String) (value : Value) :
    FailsBy own (Activity.assign name value) := by
  intro context log failure last talks
  obtain ⟨-, impossible, -⟩ := talks_assign_iff.mp talks
  cases impossible

theorem FailsBy.ask (call : Call) : FailsBy own (Activity.ask call) := by
  intro context log failure last talks
  obtain ⟨answer, rfl, same, -⟩ := talks_ask_iff.mp talks
  exact .inr ⟨_, List.mem_singleton_self _, same.symm⟩

theorem FailsBy.bind {first : Activity α} {second : α → Activity β} (fails : FailsBy own first)
    (after : ∀ value, FailsBy own (second value)) : FailsBy own (first >>= second) := by
  intro context log failure last talks
  rcases Activity.talks_bind_iff.mp talks with
    ⟨_, ⟨⟩, talks⟩ | ⟨value, middle, front, back, rfl, -, talks⟩
  · exact fails context log failure last talks
  · rcases after value middle back failure last talks with owned | ⟨turn, member, same⟩
    · exact .inl owned
    · exact .inr ⟨turn, List.mem_append_right front member, same⟩

/-- What is attempted does not fail. -/
theorem FailsBy.attempt (activity : Activity α) : FailsBy own (Activity.attempt activity) := by
  intro context log failure last talks
  obtain ⟨_, -, impossible⟩ := talks_map_iff.mp talks
  cases impossible

theorem FailsBy.within {activity : Activity α} (item : Value) (index : Nat)
    (fails : FailsBy own activity) : FailsBy own (Activity.within item index activity) := by
  intro context log failure last talks
  obtain ⟨inner, -, talks⟩ := talks_within_iff.mp talks
  exact fails _ log failure inner talks

/-- What follows a value that must be there may use that it is. -/
theorem FailsBy.require_bind {value : Option α} {message : String} {second : α → Activity β}
    (owned : own (.stepInvalid message))
    (after : ∀ found, value = some found → FailsBy own (second found)) :
    FailsBy own (Activity.require value message >>= second) := by
  cases value with
  | none => exact FailsBy.fail (α := β) owned
  | some found => exact after found rfl

end Activity

open Activity

/-- The refusals of the steps themselves: none of them tells of a malformed definition. -/
abbrev Ordinary : Failure → Prop :=
  fun failure => ¬ failure.TellsOfDefect

section Leaves

/-- The refusal of what is missing does not tell of a defect if its message starts otherwise. -/
theorem require_ordinary {α β : Type} {value : Option α} {message : String}
    {second : α → Activity β} (different : message.toList.take 9 ≠ "Unknown s".toList)
    (after : ∀ found, value = some found → FailsBy Ordinary (second found)) :
    FailsBy Ordinary (Activity.require value message >>= second) :=
  .require_bind (Failure.stepInvalid_tells_not different) after

theorem need_ordinary (present : Bool) (service : String) : FailsBy Ordinary (need present service) := by
  cases present with
  | false => exact .fail (by simp [Ordinary, Failure.TellsOfDefect, Failure.name])
  | true => exact .pure ()

theorem requireWritable_ordinary (value : Value) : FailsBy Ordinary (requireWritable value) := by
  refine .bind .context fun context => ?_
  split
  · exact .pure ()
  · exact .fail (Failure.foreign_tells_not _ _)

theorem resolvedValue_ordinary (value : Value) : FailsBy Ordinary (resolvedValue value) :=
  .bind (requireWritable_ordinary value) fun _ => .bind .context fun _ => .pure _

theorem resolved_ordinary (text : String) : FailsBy Ordinary (resolved text) :=
  .bind (requireWritable_ordinary _) fun _ => .bind .context fun _ => .pure _

theorem resolvedText_ordinary (text : Option String) : FailsBy Ordinary (resolvedText text) := by
  cases text with
  | none => exact .pure none
  | some text => exact .bind (resolved_ordinary text) fun _ => .pure _

theorem resolvedFields_ordinary (fields : Option Fields) : FailsBy Ordinary (resolvedFields fields) := by
  cases fields with
  | none => exact .pure []
  | some fields =>
      exact .bind (requireWritable_ordinary _) fun _ => .bind .context fun _ => .pure _

theorem resolvedIfAny_ordinary (value : Option Value) : FailsBy Ordinary (resolvedIfAny value) := by
  cases value with
  | none => exact .pure none
  | some value => exact .bind (resolvedValue_ordinary value) fun _ => .pure _

variable (collaborators : Collaborators)

theorem announce_ordinary (entity : String) (event : EntityEvent) (before after : Value) :
    FailsBy Ordinary (announce collaborators entity event before after) := by
  unfold announce
  split
  · exact .bind .context fun _ => .bind (.attempt _) fun _ => .pure ()
  · exact .pure ()

theorem readBefore_ordinary (entity id : String) : FailsBy Ordinary (readBefore entity id) := by
  refine .bind (.attempt _) fun outcome => ?_
  cases outcome with
  | error => exact .pure _
  | ok record => exact .pure record

theorem create_ordinary (entity : String) (data : Fields) :
    FailsBy Ordinary (create collaborators entity data) := by
  unfold create
  split
  · exact .fail (Failure.stepInvalid_tells_not (by decide))
  · exact .bind (.ask _) fun _ => .bind (announce_ordinary _ _ _ _ _) fun _ => .pure _

theorem update_ordinary (entity id : String) (data : Fields) :
    FailsBy Ordinary (update collaborators entity id data) :=
  .bind (readBefore_ordinary entity id) fun _ => .bind (.ask _) fun _ =>
    .bind (announce_ordinary _ _ _ _ _) fun _ => .pure _

theorem delete_ordinary (entity id : String) : FailsBy Ordinary (delete collaborators entity id) :=
  .bind (readBefore_ordinary entity id) fun _ => .bind (.ask _) fun _ =>
    .bind (announce_ordinary _ _ _ _ _) fun _ => .pure _

theorem runQuery_ordinary (query : Query) : FailsBy Ordinary (runQuery collaborators query) := by
  refine .bind (need_ordinary _ _) fun _ =>
    require_ordinary (by decide) fun entity _ =>
    require_ordinary (by decide) fun name _ =>
    .require_bind (Failure.stepInvalid_append_tells_not name (by decide) (by decide))
      fun action known =>
    .bind (resolvedFields_ordinary _) fun data => .bind (resolvedIfAny_ordinary _) fun selector => ?_
  rcases queryAction?_eq_some known with ⟨rfl, rfl⟩ | ⟨rfl, rfl⟩ | ⟨rfl, rfl⟩ | ⟨rfl, rfl⟩
  · exact .ask _
  · exact create_ordinary _ entity data
  · exact require_ordinary (by decide) fun id _ => update_ordinary _ entity id data
  · exact require_ordinary (by decide) fun id _ => delete_ordinary _ entity id

theorem runEmail_ordinary (email : Email) : FailsBy Ordinary (runEmail collaborators email) :=
  .bind (need_ordinary _ _) fun _ => .bind (resolvedText_ordinary _) fun _ =>
    .bind (resolvedText_ordinary _) fun _ =>
      require_ordinary (by decide) fun _ _ =>
        require_ordinary (by decide) fun _ _ =>
          .bind (resolvedText_ordinary _) fun _ => .bind (.ask _) fun _ => .pure _

theorem runWebhook_ordinary (webhook : Webhook) : FailsBy Ordinary (runWebhook collaborators webhook) :=
  .bind (need_ordinary _ _) fun _ =>
    require_ordinary (by decide) fun _ _ =>
      .bind (resolved_ordinary _) fun _ => .bind (resolvedIfAny_ordinary _) fun _ =>
        .bind (resolvedValue_ordinary _) fun _ => .ask _

theorem runNotice_ordinary (notice : Notice) : FailsBy Ordinary (runNotice collaborators notice) :=
  .bind (need_ordinary _ _) fun _ => .bind (resolvedText_ordinary _) fun _ =>
    .bind (resolvedText_ordinary _) fun _ => .bind (resolvedText_ordinary _) fun _ =>
      .bind (resolvedText_ordinary _) fun _ => .bind (resolvedFields_ordinary _) fun _ =>
        .bind (resolvedFields_ordinary _) fun _ => .bind (.ask _) fun _ => .pure _

theorem runPlugin_ordinary (call : PluginCall) : FailsBy Ordinary (runPlugin collaborators call) := by
  unfold runPlugin
  split
  · exact .fail (by simp [Ordinary, Failure.TellsOfDefect, Failure.name])
  · refine require_ordinary (by decide) fun plugin _ =>
      require_ordinary (by decide) fun action _ => ?_
    split
    · exact .fail (by simp [Ordinary, Failure.TellsOfDefect, Failure.name])
    · split
      · exact .bind (resolvedFields_ordinary _) fun _ => .ask _
      · exact .fail (by simp [Ordinary, Failure.TellsOfDefect, Failure.name])

theorem milliseconds?_ordinary (duration : Duration) : FailsBy Ordinary (milliseconds? duration) := by
  cases duration with
  | milliseconds amount => exact .pure _
  | text source =>
      refine .bind (resolved_ordinary source) fun text => ?_
      split
      · exact .pure _
      · exact .fail (Failure.foreign_tells_not _ _)
      · exact .pure _

theorem runDelay_ordinary (duration : Option Duration) : FailsBy Ordinary (runDelay duration) := by
  refine require_ordinary (by decide) fun duration _ =>
    .bind (milliseconds?_ordinary duration) fun _ =>
      .require_bind (Failure.stepInvalid_append_tells_not _ (by decide) (by decide))
        fun amount _ => ?_
  split
  · exact .bind (.ask _) fun _ => .pure _
  · exact .fail (Failure.foreign_tells_not _ _)

theorem loopItems_ordinary (items : Value) : FailsBy Ordinary (loopItems items) := by
  have unlisted (value : Value) :
      Ordinary (.stepInvalid ("Loop items must be an array, got " ++ value.kindName)) :=
    Failure.stepInvalid_append_tells_not _ (by decide) (by decide)
  refine .bind .context fun context => ?_
  dsimp only
  split
  · refine .bind (requireWritable_ordinary items) fun _ => ?_
    split
    · exact .pure _
    · exact .fail (unlisted _)
  · split
    · exact .pure _
    · exact .fail (unlisted _)

end Leaves

section Steps

theorem bound_ordinary (target : Option String) {activity : Activity Value}
    (ordinary : FailsBy Ordinary activity) : FailsBy Ordinary (bound target activity) := by
  refine .bind ordinary fun outcome => ?_
  split
  · exact .bind (.assign _ _) fun _ => .pure outcome
  · exact .pure outcome

/-- Induction on the items: a failure of an iteration is one of its body. -/
theorem forEach_ordinary {body : Activity (List Value)} (ordinary : FailsBy Ordinary body) (index : Nat)
    (items : List Value) : FailsBy Ordinary (forEach body index items) := by
  induction items generalizing index with
  | nil => exact .pure []
  | cons item rest ih =>
      exact .bind (.within item index ordinary) fun _ => .bind (ih (index + 1)) fun _ => .pure _

mutual

/-- No step of its own accord tells of a malformed definition. -/
theorem runStep_ordinary (collaborators : Collaborators) :
    (step : Step) → FailsBy Ordinary (runStep collaborators step)
  | .query target query => bound_ordinary target (runQuery_ordinary collaborators query)
  | .email target email => bound_ordinary target (runEmail_ordinary collaborators email)
  | .webhook target webhook => bound_ordinary target (runWebhook_ordinary collaborators webhook)
  | .plugin target call => bound_ordinary target (runPlugin_ordinary collaborators call)
  | .notify target notice => bound_ordinary target (runNotice_ordinary collaborators notice)
  | .delay target duration => bound_ordinary target (runDelay_ordinary duration)
  | .condition target test onTrue onFalse => by
      refine bound_ordinary target (require_ordinary (by decide)
        fun test _ => .bind .context fun context => ?_)
      dsimp only
      split
      · exact .bind (runSteps_ordinary collaborators onTrue) fun _ => .pure _
      · exact .bind (runSteps_ordinary collaborators onFalse) fun _ => .pure _
  | .loop target items none =>
      bound_ordinary target (require_ordinary (by decide) fun _ _ =>
        .fail (Failure.stepInvalid_tells_not (by decide)))
  | .loop target items (some body) =>
      bound_ordinary target (require_ordinary (by decide) fun items _ =>
        .bind (loopItems_ordinary items) fun found =>
          .bind (forEach_ordinary (runSteps_ordinary collaborators body) 0 found) fun _ => .pure _)

theorem runSteps_ordinary (collaborators : Collaborators) :
    (steps : List Step) → FailsBy Ordinary (runSteps collaborators steps)
  | [] => .pure []
  | step :: rest =>
      .bind (runStep_ordinary collaborators step) fun _ =>
        .bind (runSteps_ordinary collaborators rest) fun _ => .pure _

end

end Steps

section Runs

variable {collaborators : Collaborators}

/-- Induction on the steps: the failure that ends a run is one of the step that failed. -/
theorem talks_runFrom_ordinary {position : Nat} {steps : List Step} {context last : Context}
    {log : List RunTurn} {entries : List LogEntry} {failure : Failure}
    (talks : Talks (runFrom collaborators position steps context) log
      ((entries, some failure), last)) : Ordinary failure ∨ Answered log failure := by
  induction steps generalizing position context log entries with
  | nil =>
      obtain ⟨-, impossible⟩ := talks_done_iff.mp talks
      cases impossible
  | cons step rest ih =>
      obtain ⟨front, ⟨outcome, middle⟩, back, rfl, first, later⟩ :=
        Orchestra.talks_bind_iff.mp talks
      cases outcome with
      | error own =>
          obtain ⟨rfl, same⟩ := talks_done_iff.mp later
          cases same
          rw [List.append_nil]
          exact runStep_ordinary collaborators step context front _ _ first
      | ok value =>
          obtain ⟨⟨⟨entries, failed⟩, _⟩, later, same⟩ := talks_map_iff.mp later
          cases same
          rcases ih later with ordinary | ⟨turn, member, same⟩
          · exact .inl ordinary
          · exact .inr ⟨turn, List.mem_append_right front member, same⟩

/-- A run of a workflow tells of a malformed definition only in the words of a collaborator. -/
theorem talks_runWorkflow_ordinary {workflow : Definition} {context last : Context}
    {log : List RunTurn} {result : RunResult} {failure : Failure}
    (talks : Talks (runWorkflow collaborators workflow context) log (result, last))
    (failed : result.outcome = .error failure) : Ordinary failure ∨ Answered log failure := by
  obtain ⟨⟨⟨entries, ended⟩, _⟩, talks, same⟩ := talks_map_iff.mp talks
  cases ended with
  | none =>
      cases same
      cases failed
  | some own =>
      cases same
      cases failed
      exact talks_runFrom_ordinary talks

end Runs

end Execution

end Orchestra
