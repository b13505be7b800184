import Mathlib.Data.List.Forall2
import Orchestra.Proofs.Execution.Performance

/-!
What a run tells of the records that it changes.

Where someone listens, every change that was made is reported at once, with the record as it was
found just before, and nothing else is reported. What the listener answers does not matter to the
run.
-/

namespace Orchestra.Execution

open Activity

/-- The change of a record that a question asks for. -/
def Call.change? : Call → Option Change
  | .create entity _ => some ⟨entity, .create, none⟩
  | .update entity id _ => some ⟨entity, .update, some id⟩
  | .delete entity id => some ⟨entity, .delete, some id⟩
  | _ => none

namespace RunTurn

/-- The change that was made in a turn, and the record that was returned. -/
def made? (turn : RunTurn) : Option (Change × Value) :=
  match turn.asked.change?, turn.answer.outcome with
  | some change, .ok record => some (change, record)
  | _, _ => none

def told? (turn : RunTurn) : Option EntityReport :=
  match turn.asked with
  | .report news => some news
  | _ => none

/-- A report changes nothing, and a change tells nothing. -/
theorem made?_of_told {turn : RunTurn} {news : EntityReport} (told : turn.told? = some news) :
    turn.made? = none := by
  unfold told? at told
  split at told
  next asked => simp [made?, asked, Call.change?]
  next => cases told

theorem told?_of_made {turn : RunTurn} {made : Change × Value} (changed : turn.made? = some made) :
    turn.told? = none := by
  cases told : turn.told? with
  | none => rfl
  | some news => cases (made?_of_told told).symm.trans changed

theorem quiet_of_read {turn : RunTurn} {entity id : String} (asked : turn.asked = .read entity id) :
    turn.made? = none ∧ turn.told? = none := by
  simp [made?, told?, asked, Call.change?]

end RunTurn

/-- Talks in which every change that was made is reported at once, with the answer to the read of the
same record just before it, and nothing else is reported. -/
inductive Reported (cascade : CascadeInfo) : List RunTurn → Prop
  | nil : Reported cascade []
  | quiet {turn : RunTurn} {rest : List RunTurn} (unmade : turn.made? = none)
      (untold : turn.told? = none) (later : Reported cascade rest) : Reported cascade (turn :: rest)
  | created {turn telling : RunTurn} {rest : List RunTurn} {change : Change} {record : Value}
      (known : change.known? = none) (made : turn.made? = some (change, record))
      (told : telling.told? = some (change.news cascade .null record))
      (later : Reported cascade rest) : Reported cascade (turn :: telling :: rest)
  | changed {look turn telling : RunTurn} {rest : List RunTurn} {change : Change} {id : String}
      {record : Value} (known : change.known? = some id)
      (looked : look.asked = .read change.entity id) (made : turn.made? = some (change, record))
      (told : telling.told? =
        some (change.news cascade (look.answer.outcome.toOption.getD .null) record))
      (later : Reported cascade rest) : Reported cascade (look :: turn :: telling :: rest)

namespace Reported

variable {cascade : CascadeInfo} {front back log : List RunTurn}

theorem append (before : Reported cascade front) (after : Reported cascade back) :
    Reported cascade (front ++ back) := by
  induction before with
  | nil => exact after
  | quiet unmade untold _ ih => exact .quiet unmade untold ih
  | created known made told _ ih => exact .created known made told ih
  | changed known looked made told _ ih => exact .changed known looked made told ih

/-- The reports are those of the changes that were made, one for one and in order. -/
theorem matched (reported : Reported cascade log) :
    List.Forall₂ (fun made news => ∃ before, news = made.1.news cascade before made.2)
      (log.filterMap RunTurn.made?) (log.filterMap RunTurn.told?) := by
  induction reported with
  | nil => exact .nil
  | quiet unmade untold _ ih => simpa [unmade, untold] using ih
  | created known made told _ ih =>
      simp only [List.filterMap_cons, made, told, RunTurn.made?_of_told told,
        RunTurn.told?_of_made made]
      exact .cons ⟨_, rfl⟩ ih
  | changed known looked made told _ ih =>
      obtain ⟨unmade, untold⟩ := RunTurn.quiet_of_read looked
      simp only [List.filterMap_cons, unmade, untold, made, told, RunTurn.made?_of_told told,
        RunTurn.told?_of_made made]
      exact .cons ⟨_, rfl⟩ ih

end Reported

section Leaves

variable {collaborators : Collaborators} {context last : Context} {log : List RunTurn}

theorem change?_call (alteration : Alteration) :
    alteration.call.change? = some alteration.change := by
  cases alteration <;> rfl

theorem Tells.cascade_eq {effect : Effect} {outcome : Except Failure Value}
    (tells : Tells collaborators context effect log outcome last) :
    last.cascade = context.cascade := by
  cases tells with
  | refused | consulted => rfl
  | altered looks makes => cases looks <;> cases makes <;> rfl

theorem made?_call {alteration : Alteration} {answer : Answer} :
    (RunTurn.of context alteration.call answer).made? =
      answer.outcome.toOption.map (alteration.change, ·) := by
  obtain ⟨_ | _, _⟩ := answer <;> simp [RunTurn.made?, change?_call, Except.toOption]

theorem told?_call {alteration : Alteration} {answer : Answer} :
    (RunTurn.of context alteration.call answer).told? = none := by
  cases alteration <;> rfl

theorem quiet_of_aside {call : Call} (aside : call.IsAside) (answer : Answer) :
    (RunTurn.of context call answer).made? = none ∧
      (RunTurn.of context call answer).told? = none := by
  cases call with
  | read | create | update | delete | report => exact aside.elim
  | _ => exact ⟨rfl, rfl⟩

/-- A step reports the change that it made, with what it found just before. -/
theorem Tells.reported {effect : Effect} {step : Step} {outcome : Except Failure Value}
    (listened : collaborators.events = true) (suits : effect.Suits step)
    (tells : Tells collaborators context effect log outcome last) :
    Reported context.cascade log := by
  cases tells with
  | refused => exact .nil
  | consulted call value answer =>
      obtain ⟨unmade, untold⟩ := quiet_of_aside suits.1 answer
      exact .quiet unmade untold .nil
  | @altered alteration _ _ before next _ _ looks makes =>
      cases makes with
      | untold mute => cases mute.symm.trans listened
      | failed answer fails =>
          have later : Reported context.cascade [.of next alteration.call answer] :=
            .quiet (by simp [made?_call, fails, Except.toOption]) told?_call .nil
          cases looks with
          | unknown => exact later
          | known => exact .quiet rfl rfl later
      | told _ answer heard made =>
          have changed {record : Value} (made : answer.outcome = .ok record) :
              (RunTurn.of next alteration.call answer).made? = some (alteration.change, record) := by
            simp [made?_call, made, Except.toOption]
          cases looks with
          | unknown known => exact .created known (changed made) rfl .nil
          | known known look => exact .changed known rfl (changed made) rfl .nil

theorem suits_read {alteration : Alteration} {step : Step} {id : String}
    (suits : alteration.call.SuitsStep step) (known : alteration.change.known? = some id) :
    (Call.read alteration.change.entity id).SuitsStep step := by
  cases step with
  | query target query =>
      cases alteration with
      | create => cases known
      | update => exact ⟨suits.1, .inl suits.2⟩
      | delete => exact ⟨suits.1, .inr suits.2⟩
  | condition | loop => exact suits
  | _ => cases alteration <;> exact suits.1.elim

theorem suits_report {alteration : Alteration} {step : Step} {cascade : CascadeInfo}
    {before record : Value} (suits : alteration.call.SuitsStep step) :
    (Call.report (alteration.change.news cascade before record)).SuitsStep step := by
  cases step with
  | query target query => cases alteration <;> exact suits
  | condition | loop => exact suits
  | _ => cases alteration <;> exact suits.1.elim

/-- A step asks what suits it. -/
theorem Tells.suits {effect : Effect} {step : Step} {outcome : Except Failure Value}
    (suits : effect.Suits step) (tells : Tells collaborators context effect log outcome last) :
    ∀ turn ∈ log, turn.asked.SuitsStep step := by
  cases tells with
  | refused => simp
  | consulted => simpa using suits.2
  | @altered alteration _ _ _ _ _ _ looks makes =>
      have suits : alteration.call.SuitsStep step := suits
      refine List.forall_mem_append.mpr ⟨?_, ?_⟩
      · cases looks with
        | unknown => simp
        | known known => simpa using suits_read suits known
      · cases makes with
        | failed | untold => simpa using suits
        | told => simpa using ⟨suits, suits_report suits⟩

/-- A step that fails has asked nothing, or the last answer was that failure. -/
theorem Tells.failed {effect : Effect} {outcome : Except Failure Value} {failure : Failure}
    (tells : Tells collaborators context effect log outcome last)
    (fails : outcome = .error failure) :
    log = [] ∨ ∃ turn, log.getLast? = some turn ∧ turn.answer.outcome = .error failure := by
  cases tells with
  | refused => exact .inl rfl
  | consulted call value answer =>
      obtain ⟨_ | _, _⟩ := answer
      · exact .inr ⟨_, rfl, fails⟩
      · cases fails
  | altered looks makes =>
      cases makes with
      | failed answer refused =>
          cases fails
          exact .inr ⟨_, List.getLast?_concat .., refused⟩
      | untold | told => cases fails

/-- A step that has told of a change succeeds, whatever the listener answered. -/
theorem Tells.told {effect : Effect} {step : Step} {outcome : Except Failure Value}
    {turn : RunTurn} {news : EntityReport} (suits : effect.Suits step)
    (tells : Tells collaborators context effect log outcome last) (found : turn ∈ log)
    (told : turn.told? = some news) : ∃ value, outcome = .ok value := by
  cases tells with
  | refused => cases found
  | consulted call value answer =>
      cases List.mem_singleton.mp found
      cases told.symm.trans (quiet_of_aside suits.1 answer).2
  | altered looks makes =>
      rcases List.mem_append.mp found with looked | made
      · cases looks with
        | unknown => cases looked
        | known =>
            cases List.mem_singleton.mp looked
            cases told
      · cases makes with
        | failed answer =>
            cases List.mem_singleton.mp made
            cases told.symm.trans told?_call
        | untold | told => exact ⟨_, rfl⟩

end Leaves

section Performances

variable {collaborators : Collaborators} {work : Work} {context last : Context}
  {log : List RunTurn} {outcome : Except Failure (List Value)} {deeds : List Deed}

/-- A step without steps in it tells what one of its effects tells. -/
theorem leaf_tells {step : Step} {activity : Activity Value} {outcome : Except Failure Value}
    (own : leafActivity? collaborators step = some activity)
    (talks : Talks (activity context) log (outcome, last)) :
    ∃ effect : Effect, effect.Suits step ∧ Tells collaborators context effect log outcome last := by
  obtain ⟨effect, suits, same⟩ := leafActivity?_comes context own
  rw [same] at talks
  exact ⟨effect, suits, talks_effect_iff.mp talks⟩

@[simp] theorem settle_cascade (target : Option String) (outcome : Except Failure Value)
    (context : Context) : (settle target outcome context).cascade = context.cascade := by
  unfold settle
  split <;> rfl

theorem Performs.reported (listened : collaborators.events = true)
    (performs : Performs collaborators work context log outcome last deeds) :
    last.cascade = context.cascade ∧ Reported context.cascade log := by
  induction performs with
  | leaf own talks =>
      obtain ⟨effect, suits, tells⟩ := leaf_tells own talks
      exact ⟨by simpa using tells.cascade_eq, tells.reported listened suits⟩
  | refused | idle | finished => exact ⟨rfl, .nil⟩
  | branched _ ih | looped _ _ ih => exact ⟨by simpa using ih.1, ih.2⟩
  | stopped _ ih | broken _ ih => exact ih
  | followed _ _ ih₁ ih₂ | repeated _ _ ih₁ ih₂ =>
      obtain ⟨same, before⟩ := ih₁
      exact ⟨ih₂.1.trans same, before.append ((congrArg (Reported · _) same).mp ih₂.2)⟩

/-- Only queries concern records, and they ask for what their action says. -/
theorem Performs.suits (performs : Performs collaborators work context log outcome last deeds) :
    ∀ deed ∈ deeds, ∀ turn ∈ deed.asked, turn.asked.SuitsStep deed.step := by
  intro deed found
  obtain ⟨turns, inner, part⟩ := performs.part deed found
  cases part.carries with
  | leaf own talks =>
      obtain ⟨effect, suits, tells⟩ := leaf_tells own talks
      exact tells.suits suits
  | refused | branched | looped => simp

/-- The step that has told of a change succeeds. -/
theorem Performs.told {turn : RunTurn} {news : EntityReport}
    (performs : Performs collaborators work context log outcome last deeds) (found : turn ∈ log)
    (told : turn.told? = some news) :
    ∃ deed ∈ deeds, turn ∈ deed.asked ∧ ∃ value, deed.outcome = .ok value := by
  rw [performs.log_eq] at found
  obtain ⟨deed, member, asked⟩ := List.mem_flatMap.mp found
  refine ⟨deed, member, asked, ?_⟩
  obtain ⟨turns, inner, part⟩ := performs.part deed member
  cases part.carries with
  | leaf own talks =>
      obtain ⟨effect, suits, tells⟩ := leaf_tells own talks
      exact tells.told suits asked told
  | refused | branched | looped => cases asked

/-- Why a step failed: it was refused, and then neither it nor a step in it asked anything; or a
collaborator failed it with its last answer; or the last step in it had failed. -/
inductive Excused (deed : Deed) (turns : List RunTurn) (inner : List Deed) (failure : Failure) :
    Prop
  | refused (silent : turns = [])
  | answered {turn : RunTurn} (asked : deed.asked.getLast? = some turn)
      (fails : turn.answer.outcome = .error failure)
  | passed {cause : Deed} (before : inner.getLast? = some cause)
      (fails : cause.outcome = .error failure)

theorem map_eq_error {α β : Type} {f : α → β} {outcome : Except Failure α} {failure : Failure}
    (fails : outcome.map f = .error failure) : outcome = .error failure := by
  cases outcome with
  | error => exact congrArg _ (Except.error.inj fails)
  | ok => cases fails

/-- What fails, fails with its last deed. -/
theorem Performs.failed (performs : Performs collaborators work context log outcome last deeds) :
    ∀ failure, outcome = .error failure →
      ∃ cause, deeds.getLast? = some cause ∧ cause.outcome = .error failure := by
  induction performs with
  | leaf => exact fun failure fails => ⟨_, rfl, map_eq_error fails⟩
  | refused => exact fun failure fails => ⟨_, rfl, congrArg _ (Except.error.inj fails)⟩
  | branched | looped =>
      intro failure fails
      refine ⟨_, List.getLast?_concat .., ?_⟩
      rw [map_eq_error fails]
      rfl
  | idle | finished => exact fun failure fails => nomatch fails
  | stopped _ ih | broken _ ih => exact ih
  | followed _ _ _ ih | repeated _ _ _ ih =>
      intro failure fails
      obtain ⟨cause, last, same⟩ := ih failure (map_eq_error fails)
      exact ⟨cause, by rw [List.getLast?_append, last, Option.some_or], same⟩

theorem Performs.excused (performs : Performs collaborators work context log outcome last deeds) :
    ∀ deed ∈ deeds, ∀ failure, deed.outcome = .error failure →
      ∃ turns inner, Part collaborators log deeds deed turns inner ∧
        Excused deed turns inner failure := by
  intro deed found failure fails
  obtain ⟨turns, inner, part⟩ := performs.part deed found
  refine ⟨turns, inner, part, ?_⟩
  cases part.carries with
  | leaf own talks =>
      obtain ⟨effect, -, tells⟩ := leaf_tells own talks
      rcases tells.failed fails with silent | ⟨turn, asked, answered⟩
      · exact .refused silent
      · exact .answered asked answered
  | refused => exact .refused rfl
  | branched inside | looped _ inside =>
      obtain ⟨cause, before, same⟩ := inside.failed failure (map_eq_error fails)
      exact .passed before same

end Performances

section Listeners

variable {collaborators : Collaborators} {context last : Context} {log others : List RunTurn}

/-- A turn is another one but for what a listener answered. -/
structure Resounds (other turn : RunTurn) : Prop where
  call : other.call = turn.call
  bindings : other.answer.bindings = turn.answer.bindings
  same : turn.told? = none → other = turn

theorem resounds_append {front back : List RunTurn}
    (resounds : List.Forall₂ Resounds others (front ++ back)) :
    ∃ first second, others = first ++ second ∧ List.Forall₂ Resounds first front ∧
      List.Forall₂ Resounds second back :=
  ⟨_, _, (List.take_append_drop front.length others).symm,
    List.forall₂_take_append _ _ _ resounds, List.forall₂_drop_append _ _ _ resounds⟩

/-- Without reports a talk stays the same. -/
theorem resounds_quiet (resounds : List.Forall₂ Resounds others log)
    (untold : ∀ turn ∈ log, turn.told? = none) : others = log := by
  induction resounds with
  | nil => rfl
  | cons first _ ih =>
      rw [first.same (untold _ List.mem_cons_self),
        ih fun turn found => untold turn (List.mem_cons_of_mem _ found)]

theorem Makes.resounds {alteration : Alteration} {before : Value}
    {outcome : Except Failure Value}
    (makes : Makes collaborators alteration before context log outcome last)
    (resounds : List.Forall₂ Resounds others log) :
    Makes collaborators alteration before context others outcome last := by
  cases makes with
  | failed answer fails =>
      cases resounds_quiet resounds (by simp [told?_call])
      exact .failed answer fails
  | untold mute answer made =>
      cases resounds_quiet resounds (by simp [told?_call])
      exact .untold mute answer made
  | told listened answer heard made =>
      obtain ⟨first, _, same, rest, rfl⟩ := List.forall₂_cons_right_iff.mp resounds
      obtain ⟨⟨call, reply⟩, _, told, none, rfl⟩ := List.forall₂_cons_right_iff.mp rest
      cases List.forall₂_nil_right_iff.mp none
      cases same.same told?_call
      cases told.call
      have kept : heard.leave (answer.leave context) = Answer.leave (answer.leave context) reply :=
        congrArg (fun bindings => { answer.leave context with bindings }) told.bindings.symm
      rw [kept]
      exact .told listened answer reply made

theorem Tells.resounds {effect : Effect} {step : Step} {outcome : Except Failure Value}
    (suits : effect.Suits step) (tells : Tells collaborators context effect log outcome last)
    (resounds : List.Forall₂ Resounds others log) :
    Tells collaborators context effect others outcome last := by
  cases tells with
  | refused failure =>
      cases List.forall₂_nil_right_iff.mp resounds
      exact .refused failure
  | consulted call value answer =>
      cases resounds_quiet resounds (by simpa using (quiet_of_aside suits.1 answer).2)
      exact .consulted call value answer
  | altered looks makes =>
      obtain ⟨first, second, rfl, looking, making⟩ := resounds_append resounds
      have untold : first = _ := resounds_quiet looking (by cases looks <;> simp [RunTurn.told?])
      rw [untold]
      exact .altered looks (makes.resounds making)

theorem Performs.resounds {work : Work} {outcome : Except Failure (List Value)}
    {deeds : List Deed} (performs : Performs collaborators work context log outcome last deeds) :
    ∀ others, List.Forall₂ Resounds others log →
      ∃ deeds, Performs collaborators work context others outcome last deeds := by
  induction performs with
  | leaf own talks =>
      intro others resounds
      obtain ⟨effect, suits, same⟩ := leafActivity?_comes _ own
      rw [same] at talks
      have again := talks_effect_iff.mpr ((talks_effect_iff.mp talks).resounds suits resounds)
      rw [← same] at again
      exact ⟨_, .leaf own again⟩
  | refused refuses =>
      intro others resounds
      cases List.forall₂_nil_right_iff.mp resounds
      exact ⟨_, .refused refuses⟩
  | branched _ ih =>
      intro others resounds
      obtain ⟨_, again⟩ := ih others resounds
      exact ⟨_, .branched again⟩
  | looped found _ ih =>
      intro others resounds
      obtain ⟨_, again⟩ := ih others resounds
      exact ⟨_, .looped found again⟩
  | idle | finished =>
      intro others resounds
      cases List.forall₂_nil_right_iff.mp resounds
      exact ⟨_, by constructor⟩
  | stopped _ ih =>
      intro others resounds
      obtain ⟨_, again⟩ := ih others resounds
      exact ⟨_, .stopped again⟩
  | followed _ _ ih₁ ih₂ =>
      intro others resounds
      obtain ⟨first, second, rfl, front, back⟩ := resounds_append resounds
      obtain ⟨_, before⟩ := ih₁ first front
      obtain ⟨_, after⟩ := ih₂ second back
      exact ⟨_, .followed before after⟩
  | broken _ ih =>
      intro others resounds
      obtain ⟨_, again⟩ := ih others resounds
      exact ⟨_, .broken again⟩
  | repeated _ _ ih₁ ih₂ =>
      intro others resounds
      obtain ⟨first, second, rfl, front, back⟩ := resounds_append resounds
      obtain ⟨_, before⟩ := ih₁ first front
      obtain ⟨_, after⟩ := ih₂ second back
      exact ⟨_, .repeated before after⟩

theorem runStep_resounds {step : Step} {outcome : Except Failure Value}
    (talks : Talks (runStep collaborators step context) log (outcome, last))
    (resounds : List.Forall₂ Resounds others log) :
    Talks (runStep collaborators step context) others (outcome, last) := by
  obtain ⟨_, performs⟩ := performs_step step talks
  obtain ⟨_, again⟩ := performs.resounds others resounds
  obtain ⟨inner, same, talks⟩ := talks_then_iff.mp again.talks
  have same : outcome = inner := by
    cases outcome <;> cases inner <;> cases same <;> rfl
  exact same ▸ talks

theorem runFrom_resounds {position : Nat} {steps : List Step}
    {result : (List LogEntry × Option Failure) × Context}
    (talks : Talks (runFrom collaborators position steps context) log result)
    (resounds : List.Forall₂ Resounds others log) :
    Talks (runFrom collaborators position steps context) others result := by
  induction steps generalizing position context log others result with
  | nil =>
      obtain ⟨rfl, rfl⟩ := talks_done_iff.mp talks
      cases List.forall₂_nil_right_iff.mp resounds
      exact .done _
  | cons step rest ih =>
      obtain ⟨front, ⟨outcome, middle⟩, back, rfl, first, later⟩ :=
        Orchestra.talks_bind_iff.mp talks
      obtain ⟨before, after, rfl, early, late⟩ := resounds_append resounds
      refine Orchestra.talks_bind_iff.mpr
        ⟨before, _, after, rfl, runStep_resounds first early, ?_⟩
      cases outcome with
      | error failure =>
          obtain ⟨rfl, rfl⟩ := talks_done_iff.mp later
          cases List.forall₂_nil_right_iff.mp late
          exact .done _
      | ok value =>
          obtain ⟨inner, inside, rfl⟩ := talks_map_iff.mp later
          exact talks_map_iff.mpr ⟨inner, ih inside late, rfl⟩

end Listeners

section Runs

variable {collaborators : Collaborators} {context last : Context} {log : List RunTurn}

/-- A run reports the changes that it made, one for one and in order, under the workflow and the
depth of its context; only the queries of its steps change records, a step that is refused asks
nothing, and what listeners answer changes nothing. -/
theorem runWorkflow_reported {workflow : Definition} {result : RunResult}
    (listened : collaborators.events = true)
    (talks : Talks (runWorkflow collaborators workflow context) log (result, last)) :
    Reported (context.startedBy workflow.name).cascade log ∧
    List.Forall₂ (fun made news =>
        ∃ before, news = made.1.news (context.startedBy workflow.name).cascade before made.2)
      (log.filterMap RunTurn.made?) (log.filterMap RunTurn.told?) ∧
    (∃ outcome deeds, Performs collaborators (.steps workflow.steps)
        (context.startedBy workflow.name) log outcome last deeds ∧
      result.outcome = outcome.map (fun _ => last.bindings.entries) ∧
      log = deeds.flatMap Deed.asked ∧
      (∀ deed ∈ deeds, ∀ turn ∈ deed.asked, turn.asked.SuitsStep deed.step) ∧
      ∀ deed ∈ deeds, ∀ failure, deed.outcome = .error failure →
        ∃ turns inner, Part collaborators log deeds deed turns inner ∧
          Excused deed turns inner failure) ∧
    ∀ others, List.Forall₂ Resounds others log →
      Talks (runWorkflow collaborators workflow context) others (result, last) := by
  obtain ⟨outcome, deeds, performs, same⟩ := performs_run talks
  have reported := (performs.reported listened).2
  refine ⟨reported, reported.matched, ⟨outcome, deeds, performs, same, performs.log_eq,
    performs.suits, performs.excused⟩, fun others resounds => ?_⟩
  obtain ⟨inner, inside, ended⟩ := talks_map_iff.mp talks
  exact talks_map_iff.mpr ⟨inner, runFrom_resounds inside resounds, ended⟩

/-- Creates a note and changes it, in a loop. -/
def keepNote : Definition where
  name := "keep"
  steps := [.loop none (some (.list [.int 1])) (some
    [.query none ⟨some "Note", some "create", some [("size", .int 1)], none⟩,
      .query none ⟨some "Note", some "update", none, some (.matching [("id", .int 7)])⟩])]

/-- Returns a record from the data layer, and fails as a listener. -/
def answerRecord (question : Question) (_ : Unit) : Answer × Unit :=
  (⟨match question.call with
    | .report _ => .error .unwritable
    | _ => .ok (.int 7), question.context.bindings⟩, ())

theorem keepNote_reported : ∃ log result last,
    (Collaborators.events {} = true ∧ Talks (runWorkflow {} keepNote {}) log (result, last) ∧
      log.filterMap RunTurn.told? =
        [⟨"Note", .create, .null, .int 7, .str "keep", .int 0⟩,
          ⟨"Note", .update, .int 7, .int 7, .str "keep", .int 0⟩]) ∧
    Reported ⟨.str "keep", .int 0⟩ log ∧
    List.Forall₂ (fun made news =>
        ∃ before, news = made.1.news ⟨.str "keep", .int 0⟩ before made.2)
      (log.filterMap RunTurn.made?) (log.filterMap RunTurn.told?) ∧
    (∃ outcome deeds, Performs {} (.steps keepNote.steps) (Context.startedBy {} "keep") log outcome
        last deeds ∧
      result.outcome = outcome.map (fun _ => last.bindings.entries) ∧
      log = deeds.flatMap Deed.asked ∧
      (∀ deed ∈ deeds, ∀ turn ∈ deed.asked, turn.asked.SuitsStep deed.step) ∧
      ∀ deed ∈ deeds, ∀ failure, deed.outcome = .error failure →
        ∃ turns inner, Part {} log deeds deed turns inner ∧ Excused deed turns inner failure) ∧
    ∀ others, List.Forall₂ Resounds others log →
      Talks (runWorkflow {} keepNote {}) others (result, last) := by
  let program := runWorkflow {} keepNote {}
  have told : (program.talk (I := conversation) answerRecord ()).filterMap RunTurn.told? =
    [⟨"Note", .create, .null, .int 7, .str "keep", .int 0⟩,
      ⟨"Note", .update, .int 7, .int 7, .str "keep", .int 0⟩] := rfl
  have talks := talks_talk (I := conversation) answerRecord program ()
  obtain ⟨⟨result, last⟩, same⟩ : ∃ final,
    (program.run (I := conversation) answerRecord ()).1 = final := ⟨_, rfl⟩
  rw [same] at talks
  exact ⟨_, result, last, ⟨rfl, talks, told⟩, runWorkflow_reported rfl talks⟩

/-- A change under an empty name is reported under another one. -/
theorem nameless_reported_otherwise : ¬ ∀ (collaborators : Collaborators) (workflow : Definition)
    (context last : Context) (log : List RunTurn) (result : RunResult),
    collaborators.events = true →
    Talks (runWorkflow collaborators workflow context) log (result, last) →
    ∀ turn ∈ log, ∀ news, turn.told? = some news →
      news.sourceWorkflow = (context.startedBy workflow.name).cascade.sourceWorkflow := by
  intro always
  let workflow : Definition := { steps := [.query none
    ⟨some "Note", some "create", some [("size", .int 1)], none⟩] }
  let nameless : Context := { cascade := ⟨.str "", .int 2⟩ }
  let program := runWorkflow {} workflow nameless
  have told : (program.talk (I := conversation) answerRecord ()).filterMap RunTurn.told? =
    [⟨"Note", .create, .null, .int 7, .str "unknown", .int 2⟩] := rfl
  have talks := talks_talk (I := conversation) answerRecord program ()
  obtain ⟨⟨result, last⟩, same⟩ : ∃ final,
    (program.run (I := conversation) answerRecord ()).1 = final := ⟨_, rfl⟩
  rw [same] at talks
  obtain ⟨turn, found, news⟩ := List.mem_filterMap.mp (told ▸ List.mem_cons_self)
  have same := Value.str.inj (always {} workflow nameless last _ result rfl talks turn found _ news)
  exact absurd same (by decide)

end Runs

end Orchestra.Execution
