import Orchestra.Proofs.Execution.Activity

/-!
What a step without steps of its own comes to.

Before it asks anything, such a step only looks at its fields and resolves them. Then it fails, or it
asks one question, or it alters a record. An alteration of a record that is known looks at it first,
and an alteration that was made is reported at once.
-/

namespace Orchestra.Execution

open Activity

/-- What happens to a record of an entity; a record that is there before has an identity. -/
structure Change where
  entity : String
  event : EntityEvent
  known? : Option String

/-- The news of a change that was made by a run at a place in a cascade, with the record as it was
found before and as it was returned. -/
def Change.news (change : Change) (cascade : CascadeInfo) (before record : Value) :
    EntityReport where
  entity := change.entity
  event := change.event
  before := before
  after := match change.event with
    | .delete => .null
    | _ => record
  sourceWorkflow :=
    if cascade.sourceWorkflow.truthy then cascade.sourceWorkflow else .str "unknown"
  depth := cascade.depth

/-- A change of one record, with its data. -/
inductive Alteration where
  | create (entity : String) (data : Fields)
  | update (entity id : String) (data : Fields)
  | delete (entity id : String)

namespace Alteration

def change : Alteration → Change
  | .create entity _ => ⟨entity, .create, none⟩
  | .update entity id _ => ⟨entity, .update, some id⟩
  | .delete entity id => ⟨entity, .delete, some id⟩

def call : Alteration → Call
  | .create entity data => .create entity (.obj data)
  | .update entity id data => .update entity id (.obj data)
  | .delete entity id => .delete entity id

/-- Looks at the record that is to be changed. -/
def look (alteration : Alteration) : Activity Value :=
  match alteration.change.known? with
  | none => Activity.pure .null
  | some id => readBefore alteration.change.entity id

/-- Changes the record and tells of it. -/
def make (collaborators : Collaborators) (alteration : Alteration) (before : Value) :
    Activity Value := do
  let record ← ask alteration.call
  announce collaborators alteration.change.entity alteration.change.event before
    (match alteration.change.event with
      | .delete => .null
      | _ => record)
  return record

end Alteration

/-- What a step without steps of its own comes to once its fields are resolved. -/
inductive Effect where
  | refuse (failure : Failure)
  | consult (call : Call) (outcome : Value → Value)
  | alter (alteration : Alteration)

/-- A question that is not about a single record of the data layer. -/
def Call.IsAside : Call → Prop
  | .read .. | .create .. | .update .. | .delete .. | .report _ => False
  | _ => True

/-- The questions that a query may ask: those of its action, about its entity. -/
def Call.SuitsQuery (query : Query) : Call → Prop
  | .find entity _ => query.entity = some entity ∧ query.action = some "find"
  | .read entity _ =>
    query.entity = some entity ∧ (query.action = some "update" ∨ query.action = some "delete")
  | .create entity _ => query.entity = some entity ∧ query.action = some "create"
  | .update entity _ _ => query.entity = some entity ∧ query.action = some "update"
  | .delete entity _ => query.entity = some entity ∧ query.action = some "delete"
  | .report news => query.entity = some news.entity ∧ query.action = some news.event.name
  | _ => False

/-- The questions that a step may ask itself: only queries concern records. -/
def Call.SuitsStep (call : Call) : Step → Prop
  | .query _ query => call.SuitsQuery query
  | .condition .. | .loop .. => False
  | _ => call.IsAside ∧ ∀ entity selector, call ≠ .find entity selector

namespace Effect

/-- Asks a question and makes an outcome of the answer. -/
def ask (call : Call) (outcome : Value → Value) : Activity Value :=
  fun context => .ask ⟨context, call⟩ fun (answer : Answer) =>
    .done (answer.outcome.map outcome, answer.leave context)

def activity (collaborators : Collaborators) : Effect → Activity Value
  | .refuse failure => fail failure
  | .consult call outcome => ask call outcome
  | .alter alteration => alteration.look >>= alteration.make collaborators

/-- What a step may come to. -/
def Suits (step : Step) : Effect → Prop
  | .refuse _ => True
  | .consult call _ => call.IsAside ∧ call.SuitsStep step
  | .alter alteration => alteration.call.SuitsStep step

end Effect

section Talks

variable {collaborators : Collaborators} {context last : Context} {log : List RunTurn}
  {alteration : Alteration}

/-- The turns of a look at the record that is to be changed; null stands for what cannot be read. -/
inductive Looks (change : Change) (context : Context) : List RunTurn → Value → Context → Prop
  | unknown (known : change.known? = none) : Looks change context [] .null context
  | known {id : String} (known : change.known? = some id) (answer : Answer) :
      Looks change context [.of context (.read change.entity id) answer]
        (answer.outcome.toOption.getD .null) (answer.leave context)

/-- The turns of a change of a record: what was changed is reported where someone listens. -/
inductive Makes (collaborators : Collaborators) (alteration : Alteration) (before : Value)
    (context : Context) : List RunTurn → Except Failure Value → Context → Prop
  | failed {failure : Failure} (answer : Answer) (fails : answer.outcome = .error failure) :
      Makes collaborators alteration before context [.of context alteration.call answer]
        (.error failure) (answer.leave context)
  | untold {record : Value} (mute : collaborators.events = false) (answer : Answer)
      (made : answer.outcome = .ok record) :
      Makes collaborators alteration before context [.of context alteration.call answer]
        (.ok record) (answer.leave context)
  | told {record : Value} (listened : collaborators.events = true) (answer heard : Answer)
      (made : answer.outcome = .ok record) :
      Makes collaborators alteration before context
        [.of context alteration.call answer,
          .of (answer.leave context)
            (.report (alteration.change.news context.cascade before record)) heard]
        (.ok record) (heard.leave (answer.leave context))

/-- The turns of an effect, its outcome and the context after it. -/
inductive Tells (collaborators : Collaborators) (context : Context) :
    Effect → List RunTurn → Except Failure Value → Context → Prop
  | refused (failure : Failure) :
      Tells collaborators context (.refuse failure) [] (.error failure) context
  | consulted (call : Call) (outcome : Value → Value) (answer : Answer) :
      Tells collaborators context (.consult call outcome) [.of context call answer]
        (answer.outcome.map outcome) (answer.leave context)
  | altered {alteration : Alteration} {look turns : List RunTurn} {before : Value}
      {next last : Context} {outcome : Except Failure Value}
      (looks : Looks alteration.change context look before next)
      (makes : Makes collaborators alteration before next turns outcome last) :
      Tells collaborators context (.alter alteration) (look ++ turns) outcome last

theorem readBefore_eq (entity id : String) (context : Context) :
    readBefore entity id context = .ask (⟨context, .read entity id⟩ : Question)
      fun (answer : Answer) =>
        .done (.ok (answer.outcome.toOption.getD .null), answer.leave context) := by
  show Program.ask (I := conversation) _ _ = Program.ask (I := conversation) _ _
  congr 1
  funext answer
  cases answer with
  | mk outcome bindings => cases outcome <;> rfl

theorem talks_look_iff {outcome : Except Failure Value} :
    Talks (alteration.look context) log (outcome, last) ↔
      ∃ before, outcome = .ok before ∧ Looks alteration.change context log before last := by
  unfold Alteration.look
  cases known : alteration.change.known? with
  | none =>
    constructor
    · intro talks
      obtain ⟨rfl, rfl, rfl⟩ := talks_pure_iff.mp talks
      exact ⟨_, rfl, .unknown known⟩
    · rintro ⟨before, rfl, looks⟩
      cases looks with
      | unknown => exact .done _
      | known known' => simp [known] at known'
  | some id =>
    dsimp only
    rw [readBefore_eq]
    refine talks_question_iff.trans ?_
    constructor
    · rintro ⟨answer, rfl, ⟨⟩⟩
      exact ⟨_, rfl, .known known answer⟩
    · rintro ⟨before, rfl, looks⟩
      cases looks with
      | unknown known' => simp [known] at known'
      | known known' answer =>
          cases known.symm.trans known'
          exact ⟨answer, rfl, rfl⟩

/-- A change is asked for; only what was changed is told of. -/
theorem make_eq (before : Value) (context : Context) :
    alteration.make collaborators before context =
      .ask (⟨context, alteration.call⟩ : Question) fun (answer : Answer) =>
        match answer.outcome with
        | .error failure => .done (.error failure, answer.leave context)
        | .ok record =>
          if collaborators.events then
            .ask (⟨answer.leave context,
              .report (alteration.change.news context.cascade before record)⟩ : Question)
              fun (heard : Answer) => .done (.ok record, heard.leave (answer.leave context))
          else .done (.ok record, answer.leave context) := by
  show Program.ask (I := conversation) _ _ = Program.ask (I := conversation) _ _
  congr 1
  funext answer
  obtain ⟨failure | record, bindings⟩ := answer
  · rfl
  · show (announce collaborators alteration.change.entity alteration.change.event before _ >>=
      fun _ => Activity.pure record) _ = ite _ _ _
    unfold announce
    cases collaborators.events with
    | false => rfl
    | true => rfl

theorem talks_make_iff {before : Value} {outcome : Except Failure Value} :
    Talks (alteration.make collaborators before context) log (outcome, last) ↔
      Makes collaborators alteration before context log outcome last := by
  rw [make_eq]
  refine Orchestra.talks_ask_iff.trans ?_
  constructor
  · rintro ⟨answer, rest, rfl, later⟩
    revert later
    split
    next failure fails =>
      intro later
      obtain ⟨rfl, ⟨⟩⟩ := talks_done_iff.mp later
      exact .failed answer fails
    next record made =>
      split
      next listened =>
        intro later
        obtain ⟨heard, rfl, ⟨⟩⟩ := talks_question_iff.mp later
        exact .told listened answer heard made
      next mute =>
        intro later
        obtain ⟨rfl, ⟨⟩⟩ := talks_done_iff.mp later
        exact .untold (by simpa using mute) answer made
  · intro makes
    cases makes with
    | failed answer fails =>
        refine ⟨answer, [], rfl, ?_⟩
        rw [fails]
        exact .done _
    | untold mute answer made =>
        refine ⟨answer, [], rfl, ?_⟩
        simp only [made, mute]
        exact .done _
    | told listened answer heard made =>
        refine ⟨answer, _, rfl, ?_⟩
        simp only [made, listened]
        exact talks_question_iff.mpr ⟨heard, rfl, rfl⟩

/-- An effect talks as it tells. -/
theorem talks_effect_iff {effect : Effect} {outcome : Except Failure Value} :
    Talks (effect.activity collaborators context) log (outcome, last) ↔
      Tells collaborators context effect log outcome last := by
  cases effect with
  | refuse failure =>
      constructor
      · intro talks
        obtain ⟨rfl, rfl, rfl⟩ := talks_fail_iff.mp talks
        exact .refused failure
      · rintro ⟨⟩
        exact .done _
  | consult call value =>
      constructor
      · intro talks
        obtain ⟨answer, rfl, ⟨⟩⟩ := talks_question_iff.mp talks
        exact .consulted call value answer
      · rintro ⟨⟩
        exact talks_question_iff.mpr ⟨_, rfl, rfl⟩
  | alter alteration =>
      refine Activity.talks_bind_iff.trans ?_
      simp only [talks_look_iff, talks_make_iff]
      constructor
      · rintro (⟨_, -, _, ⟨⟩, -⟩ | ⟨before, next, look, turns, rfl, ⟨_, ⟨⟩, looks⟩, makes⟩)
        exact .altered looks makes
      · rintro ⟨⟩
        next looks makes => exact .inr ⟨_, _, _, _, rfl, ⟨_, rfl, looks⟩, makes⟩

end Talks

section Leaves

variable (collaborators : Collaborators) {step : Step} {context : Context}

/-- In a context, an activity of a step comes to one of its effects. -/
def ComesTo (step : Step) (context : Context) (activity : Activity Value) : Prop :=
  ∃ effect : Effect, effect.Suits step ∧
    activity context = effect.activity collaborators context

variable {collaborators}

theorem ComesTo.fail (failure : Failure) :
    ComesTo collaborators step context (Activity.fail failure) :=
  ⟨.refuse failure, trivial, rfl⟩

theorem ComesTo.ask_then {call : Call} (outcome : Value → Value) (aside : call.IsAside)
    (suits : call.SuitsStep step) :
    ComesTo collaborators step context
      (Activity.ask call >>= fun value => Activity.pure (outcome value)) := by
  refine ⟨.consult call outcome, ⟨aside, suits⟩, ?_⟩
  show Program.ask (I := conversation) _ _ = Program.ask (I := conversation) _ _
  congr 1
  funext answer
  cases answer with
  | mk outcome bindings => cases outcome <;> rfl

theorem ComesTo.ask {call : Call} (aside : call.IsAside) (suits : call.SuitsStep step) :
    ComesTo collaborators step context (Activity.ask call) := by
  refine ⟨.consult call id, ⟨aside, suits⟩, ?_⟩
  show Program.ask (I := conversation) _ _ = Program.ask (I := conversation) _ _
  congr 1
  funext answer
  cases answer with
  | mk outcome bindings => cases outcome <;> rfl

theorem ComesTo.bind {α : Type} {first : Activity α} {second : α → Activity Value}
    (silent : Silent first)
    (after : ∀ value, ComesTo collaborators step context (second value)) :
    ComesTo collaborators step context (first >>= second) := by
  rcases silent.bind_cases second context with ⟨failure, -, same⟩ | ⟨value, -, same⟩
  · exact ⟨.refuse failure, trivial, same⟩
  · obtain ⟨effect, suits, same'⟩ := after value
    exact ⟨effect, suits, same.trans same'⟩

/-- What follows a value that must be there may use that it is. -/
theorem ComesTo.require {α : Type} {value : Option α} {message : String}
    {second : α → Activity Value}
    (after : ∀ found, value = some found → ComesTo collaborators step context (second found)) :
    ComesTo collaborators step context (Activity.require value message >>= second) := by
  cases value with
  | none => exact ⟨.refuse _, trivial, rfl⟩
  | some found => exact after found rfl

variable (collaborators context)

theorem nonEmpty_eq_some {text : Option String} {found : String}
    (same : nonEmpty text = some found) : text = some found :=
  (Option.filter_eq_some_iff.mp same).1

theorem queryAction?_eq_some {name : String} {action : QueryAction}
    (known : queryAction? name = some action) :
    name = "find" ∧ action = .find ∨ name = "create" ∧ action = .create ∨
      name = "update" ∧ action = .change .update ∨ name = "delete" ∧ action = .change .delete := by
  unfold queryAction? at known
  split at known <;> simp_all

theorem runQuery_comes (target : Option String) (query : Query) :
    ComesTo collaborators (.query target query) context (runQuery collaborators query) := by
  refine .bind (.need _ _) fun _ => .require fun entity named => .require fun name called =>
    .require fun action known => .bind (resolvedFields_silent _) fun data =>
      .bind (resolvedIfAny_silent _) fun selector => ?_
  replace named := nonEmpty_eq_some named
  replace called := nonEmpty_eq_some called
  rcases queryAction?_eq_some known with ⟨rfl, rfl⟩ | ⟨rfl, rfl⟩ | ⟨rfl, rfl⟩ | ⟨rfl, rfl⟩
  · exact .ask trivial ⟨named, called⟩
  · dsimp only [create]
    split
    · exact .fail _
    · exact ⟨.alter (.create entity data), ⟨named, called⟩, rfl⟩
  · exact .require fun id _ => ⟨.alter (.update entity id data), ⟨named, called⟩, rfl⟩
  · exact .require fun id _ => ⟨.alter (.delete entity id), ⟨named, called⟩, rfl⟩

theorem runEmail_comes (target : Option String) (email : Email) :
    ComesTo collaborators (.email target email) context (runEmail collaborators email) :=
  .bind (.need _ _) fun _ => .bind (resolvedText_silent _) fun _ =>
    .bind (resolvedText_silent _) fun _ => .require fun _ _ => .require fun _ _ =>
      .bind (resolvedText_silent _) fun _ => .ask_then (fun _ => .null) trivial ⟨trivial, by simp⟩

theorem runWebhook_comes (target : Option String) (webhook : Webhook) :
    ComesTo collaborators (.webhook target webhook) context (runWebhook collaborators webhook) :=
  .bind (.need _ _) fun _ => .require fun _ _ => .bind (resolved_silent _) fun _ =>
    .bind (resolvedIfAny_silent _) fun _ => .bind (resolvedValue_silent _) fun _ =>
      .ask trivial ⟨trivial, by simp⟩

theorem runNotice_comes (target : Option String) (notice : Notice) :
    ComesTo collaborators (.notify target notice) context (runNotice collaborators notice) :=
  .bind (.need _ _) fun _ => .bind (resolvedText_silent _) fun _ =>
    .bind (resolvedText_silent _) fun _ => .bind (resolvedText_silent _) fun _ =>
      .bind (resolvedText_silent _) fun _ => .bind (resolvedFields_silent _) fun _ =>
        .bind (resolvedFields_silent _) fun _ =>
          .ask_then (fun _ => .null) trivial ⟨trivial, by simp⟩

theorem runPlugin_comes (target : Option String) (call : PluginCall) :
    ComesTo collaborators (.plugin target call) context (runPlugin collaborators call) := by
  unfold runPlugin
  split
  · exact .fail _
  · refine .require fun plugin _ => .require fun action _ => ?_
    split
    · exact .fail _
    · split
      · exact .bind (resolvedFields_silent _) fun _ => .ask trivial ⟨trivial, by simp⟩
      · exact .fail _

theorem runDelay_comes (target : Option String) (duration : Option Duration) :
    ComesTo collaborators (.delay target duration) context (runDelay duration) := by
  refine .require fun duration _ => .bind (milliseconds?_silent duration) fun _ =>
    .require fun amount _ => ?_
  split
  · exact .ask_then (fun _ => .null) trivial ⟨trivial, by simp⟩
  · exact .fail _

/-- What a step without steps of its own does, before its outcome is bound. -/
def leafActivity? (collaborators : Collaborators) : Step → Option (Activity Value)
  | .query _ query => some (runQuery collaborators query)
  | .email _ email => some (runEmail collaborators email)
  | .webhook _ webhook => some (runWebhook collaborators webhook)
  | .plugin _ call => some (runPlugin collaborators call)
  | .notify _ notice => some (runNotice collaborators notice)
  | .delay _ duration => some (runDelay duration)
  | .condition .. | .loop .. => none

variable {collaborators}

theorem leafActivity?_comes (context : Context) {activity : Activity Value}
    (own : leafActivity? collaborators step = some activity) :
    ComesTo collaborators step context activity := by
  cases step with
  | query target query => cases own; exact runQuery_comes ..
  | email target email => cases own; exact runEmail_comes ..
  | webhook target webhook => cases own; exact runWebhook_comes ..
  | plugin target call => cases own; exact runPlugin_comes ..
  | notify target notice => cases own; exact runNotice_comes ..
  | delay target duration => cases own; exact runDelay_comes ..
  | condition | loop => cases own

end Leaves

end Orchestra.Execution
