import Orchestra.Execution.Step
import Orchestra.Proofs.Talk

/-!
Talks of activities, and activities that ask nothing.
-/

namespace Orchestra.Execution

/-- A turn of the talk between a run and its collaborators. -/
abbrev RunTurn := Turn conversation

namespace RunTurn

def of (context : Context) (call : Call) (answer : Answer) : RunTurn :=
  ⟨(⟨context, call⟩ : Question), answer⟩

/-- The context in which a question was asked. -/
def context (turn : RunTurn) : Context :=
  Question.context turn.call

def asked (turn : RunTurn) : Call :=
  Question.call turn.call

def answer (turn : RunTurn) : Answer :=
  turn.reply

@[simp] theorem context_of (context : Context) (call : Call) (answer : Answer) :
    (of context call answer).context = context := rfl

@[simp] theorem asked_of (context : Context) (call : Call) (answer : Answer) :
    (of context call answer).asked = call := rfl

@[simp] theorem answer_of (context : Context) (call : Call) (answer : Answer) :
    (of context call answer).answer = answer := rfl

end RunTurn

/-- The context after an answer. -/
def Answer.leave (context : Context) (answer : Answer) : Context :=
  { context with bindings := answer.bindings }

@[simp] theorem Answer.leave_bindings (context : Context) (answer : Answer) :
    (answer.leave context).bindings = answer.bindings := rfl

@[simp] theorem Answer.leave_cascade (context : Context) (answer : Answer) :
    (answer.leave context).cascade = context.cascade := rfl

namespace Activity

variable {α β : Type}

section Talks

variable {context last : Context} {log : List RunTurn}

@[simp] theorem talks_pure_iff {value : α} {outcome : Except Failure α} :
    Talks (Activity.pure value context) log (outcome, last) ↔
      log = [] ∧ outcome = .ok value ∧ last = context := by
  simp [Activity.pure]

@[simp] theorem talks_fail_iff {failure : Failure} {outcome : Except Failure α} :
    Talks (Activity.fail failure context) log (outcome, last) ↔
      log = [] ∧ outcome = .error failure ∧ last = context := by
  simp [Activity.fail]

@[simp] theorem talks_assign_iff {name : String} {value : Value} {outcome : Except Failure Unit} :
    Talks (Activity.assign name value context) log (outcome, last) ↔
      log = [] ∧ outcome = .ok () ∧ last = context.assign name value := by
  simp [Activity.assign]

theorem talks_question_iff {call : Call} {f : Answer → α} {result : α} :
    Talks (I := conversation) (.ask (⟨context, call⟩ : Question) fun answer => .done (f answer)) log
        result ↔
      ∃ answer, log = [.of context call answer] ∧ result = f answer := by
  constructor
  · intro talks
    obtain ⟨answer, rest, rfl, later⟩ := Orchestra.talks_ask_iff.mp talks
    obtain ⟨rfl, rfl⟩ := talks_done_iff.mp later
    exact ⟨answer, rfl, rfl⟩
  · rintro ⟨answer, rfl, rfl⟩
    exact @Talks.ask conversation _ ⟨context, call⟩ _ _ _ answer (.done _)

theorem talks_map_iff {program : Program conversation α} {f : α → β} {result : β} :
    Talks (program.map f) log result ↔ ∃ inner, Talks program log inner ∧ result = f inner := by
  unfold Program.map
  rw [Orchestra.talks_bind_iff]
  constructor
  · rintro ⟨first, inner, _, rfl, before, ⟨⟩⟩
    exact ⟨inner, by simpa using before, rfl⟩
  · rintro ⟨inner, talks, rfl⟩
    exact ⟨log, inner, [], by simp, talks, .done _⟩

/-- One activity after the other either fails with the first, or goes on with its value. -/
theorem talks_bind_iff {first : Activity α} {second : α → Activity β}
    {outcome : Except Failure β} :
    Talks ((first >>= second) context) log (outcome, last) ↔
      (∃ failure, outcome = .error failure ∧ Talks (first context) log (.error failure, last)) ∨
        ∃ value middle front back, log = front ++ back ∧
          Talks (first context) front (.ok value, middle) ∧
          Talks (second value middle) back (outcome, last) := by
  have unfolds : (first >>= second) context = (first context).bind _ := rfl
  rw [unfolds, Orchestra.talks_bind_iff]
  constructor
  · rintro ⟨front, ⟨failure | value, middle⟩, back, rfl, before, after⟩
    · obtain ⟨rfl, same⟩ := talks_done_iff.mp after
      cases same
      exact .inl ⟨failure, rfl, by simpa using before⟩
    · exact .inr ⟨value, middle, front, back, rfl, before, after⟩
  · rintro (⟨failure, rfl, before⟩ | ⟨value, middle, front, back, rfl, before, after⟩)
    · exact ⟨log, _, [], by simp, before, .done _⟩
    · exact ⟨front, _, back, rfl, before, after⟩

theorem talks_ask_iff {call : Call} {outcome : Except Failure Value} :
    Talks (Activity.ask call context) log (outcome, last) ↔
      ∃ answer : Answer, log = [.of context call answer] ∧ outcome = answer.outcome ∧
        last = answer.leave context := by
  refine talks_question_iff.trans (exists_congr fun answer => and_congr_right fun _ => ?_)
  exact Prod.ext_iff

theorem talks_within_iff {activity : Activity α} {item : Value} {index : Nat}
    {outcome : Except Failure α} :
    Talks (Activity.within item index activity context) log (outcome, last) ↔
      ∃ inner, last = inner.outer ∧
        Talks (activity (context.iterate item index)) log (outcome, inner) := by
  unfold Activity.within
  rw [talks_map_iff]
  constructor
  · rintro ⟨⟨_, inner⟩, talks, ⟨⟩⟩
    exact ⟨inner, rfl, talks⟩
  · rintro ⟨inner, rfl, talks⟩
    exact ⟨_, talks, rfl⟩

end Talks

/-- An activity that asks nothing and leaves the context as it is. -/
def Silent (activity : Activity α) : Prop :=
  ∀ context, ∃ outcome, activity context = .done (outcome, context)

theorem Silent.pure (value : α) : Silent (Activity.pure value) :=
  fun _ => ⟨_, rfl⟩

theorem Silent.fail (failure : Failure) : Silent (Activity.fail failure : Activity α) :=
  fun _ => ⟨_, rfl⟩

theorem Silent.context : Silent Activity.context :=
  fun _ => ⟨_, rfl⟩

/-- After an activity that asks nothing comes the next one, unless it failed. -/
theorem Silent.bind_cases {first : Activity α} (silent : Silent first)
    (second : α → Activity β) (context : Context) :
    (∃ failure, first context = .done (.error failure, context) ∧
        (first >>= second) context = .done (.error failure, context)) ∨
      ∃ value, first context = .done (.ok value, context) ∧
        (first >>= second) context = second value context := by
  obtain ⟨_ | value, same⟩ := silent context
  all_goals
    have unfolds : (first >>= second) context = (first context).bind _ := rfl
    rw [same] at unfolds
  · exact .inl ⟨_, same, unfolds⟩
  · exact .inr ⟨value, same, unfolds⟩

theorem Silent.bind {first : Activity α} {second : α → Activity β} (silent : Silent first)
    (after : ∀ value, Silent (second value)) : Silent (first >>= second) := by
  intro context
  rcases silent.bind_cases second context with ⟨failure, -, same⟩ | ⟨value, -, same⟩
  · exact ⟨_, same⟩
  · rw [same]
    exact after value context

theorem Silent.require (value : Option α) (message : String) :
    Silent (Activity.require value message) := by
  cases value with
  | none => exact .fail _
  | some value => exact .pure value

theorem Silent.need (present : Bool) (service : String) :
    Silent (Activity.need present service) := by
  cases present with
  | false => exact .fail _
  | true => exact .pure ()

end Activity

open Activity

section Templates

theorem requireWritable_silent (value : Value) : Silent (requireWritable value) := by
  refine .bind .context fun context => ?_
  split
  · exact .pure ()
  · exact .fail _

theorem resolvedValue_silent (value : Value) : Silent (resolvedValue value) :=
  .bind (requireWritable_silent value) fun _ => .bind .context fun _ => .pure _

theorem resolved_silent (text : String) : Silent (resolved text) :=
  .bind (requireWritable_silent _) fun _ => .bind .context fun _ => .pure _

theorem resolvedText_silent (text : Option String) : Silent (resolvedText text) := by
  cases text with
  | none => exact .pure none
  | some text => exact .bind (resolved_silent text) fun _ => .pure _

theorem resolvedFields_silent (fields : Option Fields) : Silent (resolvedFields fields) := by
  cases fields with
  | none => exact .pure []
  | some fields =>
      exact .bind (requireWritable_silent _) fun _ => .bind .context fun _ => .pure _

theorem resolvedIfAny_silent (value : Option Value) : Silent (resolvedIfAny value) := by
  cases value with
  | none => exact .pure none
  | some value => exact .bind (resolvedValue_silent value) fun _ => .pure _

theorem milliseconds?_silent (duration : Duration) : Silent (milliseconds? duration) := by
  cases duration with
  | milliseconds amount => exact .pure _
  | text source =>
      refine .bind (resolved_silent source) fun text => ?_
      split
      · exact .pure _
      · exact .fail _
      · exact .pure _

/-- The items of a loop are found without a question. -/
theorem loopItems_silent (items : Value) : Silent (loopItems items) := by
  refine .bind .context fun context => ?_
  dsimp only
  split
  · refine .bind (requireWritable_silent items) fun _ => ?_
    split
    · exact .pure _
    · exact .fail _
  · split
    · exact .pure _
    · exact .fail _

end Templates

end Orchestra.Execution
