import Orchestra.Execution.Run
import Orchestra.Proofs.Execution.Effect

/-!
What a run performs, step by step.

A performance lists the steps that were carried out in the order in which they ended, each with the
context it started in and the turns of its own. Every talk of a run belongs to a performance, and
every performance is a talk.
-/

namespace Orchestra.Execution

open Activity

/-- A step that was carried out. -/
structure Deed where
  step : Step
  start : Context
  /-- The turns of the step itself, without those of the steps in it. -/
  asked : List RunTurn
  outcome : Except Failure Value
  /-- The context at its end, before its outcome is bound. -/
  finish : Context

/-- Binds an outcome to a variable when there is one. -/
def settle (target : Option String) (outcome : Except Failure Value) (context : Context) : Context :=
  match outcome, target with
  | .ok value, some name => context.assign name value
  | _, _ => context

/-- The context after a step. -/
def Deed.landed (deed : Deed) : Context :=
  settle deed.step.target? deed.outcome deed.finish

/-- What can be performed: a step, steps in a row, or the rounds of a loop from a number on. -/
inductive Work where
  | step (step : Step)
  | steps (steps : List Step)
  | rounds (body : List Step) (index : Nat) (items : List Value)

def Work.activity (collaborators : Collaborators) : Work → Activity (List Value)
  | .step single => runStep collaborators single >>= fun value => Activity.pure [value]
  | .steps list => runSteps collaborators list
  | .rounds body index items => forEach (runSteps collaborators body) index items

/-- Why a step with steps in it fails before any of them. -/
inductive Refuses (context : Context) : Step → Failure → Prop
  | testless (target : Option String) (onTrue onFalse : List Step) :
      Refuses context (.condition target none onTrue onFalse)
        (.stepInvalid "Condition step requires if")
  | itemless (target : Option String) (body : Option (List Step)) :
      Refuses context (.loop target none body) (.stepInvalid "Loop step requires items")
  | bodiless (target : Option String) (items : Value) :
      Refuses context (.loop target (some items) none) (.stepInvalid "Loop step requires do")
  | unlisted {items : Value} {failure : Failure} (target : Option String) (body : List Step)
      (fails : loopItems items context = .done (.error failure, context)) :
      Refuses context (.loop target (some items) (some body)) failure

/-- The performances of a work in a context: the turns of the talk, the outcomes, the context
afterwards and the deeds. -/
inductive Performs (collaborators : Collaborators) :
    Work → Context → List RunTurn → Except Failure (List Value) → Context → List Deed → Prop
  | leaf {step : Step} {activity : Activity Value} {context finish : Context}
      {log : List RunTurn} {outcome : Except Failure Value}
      (own : leafActivity? collaborators step = some activity)
      (talks : Talks (activity context) log (outcome, finish)) :
      Performs collaborators (.step step) context log (outcome.map fun value => [value])
        (settle step.target? outcome finish) [⟨step, context, log, outcome, finish⟩]
  | refused {step : Step} {context : Context} {failure : Failure}
      (refuses : Refuses context step failure) :
      Performs collaborators (.step step) context [] (.error failure) context
        [⟨step, context, [], .error failure, context⟩]
  | branched {target : Option String} {test : Condition} {onTrue onFalse : List Step}
      {context finish : Context} {log : List RunTurn} {outcome : Except Failure (List Value)}
      {deeds : List Deed}
      (branch : Performs collaborators
        (.steps (if test.evaluate context.toValue then onTrue else onFalse)) context log outcome
        finish deeds) :
      Performs collaborators (.step (.condition target (some test) onTrue onFalse)) context log
        (outcome.map fun _ => [.null])
        (settle (nonEmpty target) (outcome.map fun _ => .null) finish)
        (deeds ++ [⟨.condition target (some test) onTrue onFalse, context, [],
          outcome.map fun _ => .null, finish⟩])
  | looped {target : Option String} {items : Value} {body : List Step}
      {context finish : Context} {values : List Value} {log : List RunTurn}
      {outcome : Except Failure (List Value)} {deeds : List Deed}
      (found : loopItems items context = .done (.ok values, context))
      (rounds : Performs collaborators (.rounds body 0 values) context log outcome finish deeds) :
      Performs collaborators (.step (.loop target (some items) (some body))) context log
        (outcome.map fun outcomes => [.list outcomes])
        (settle (nonEmpty target) (outcome.map .list) finish)
        (deeds ++ [⟨.loop target (some items) (some body), context, [], outcome.map .list, finish⟩])
  | idle (context : Context) : Performs collaborators (.steps []) context [] (.ok []) context []
  | stopped {step : Step} {rest : List Step} {context last : Context} {log : List RunTurn}
      {failure : Failure} {deeds : List Deed}
      (first : Performs collaborators (.step step) context log (.error failure) last deeds) :
      Performs collaborators (.steps (step :: rest)) context log (.error failure) last deeds
  | followed {step : Step} {rest : List Step} {context middle last : Context}
      {front back : List RunTurn} {values : List Value} {outcome : Except Failure (List Value)}
      {early late : List Deed}
      (first : Performs collaborators (.step step) context front (.ok values) middle early)
      (later : Performs collaborators (.steps rest) middle back outcome last late) :
      Performs collaborators (.steps (step :: rest)) context (front ++ back)
        (outcome.map (values ++ ·)) last (early ++ late)
  | finished {body : List Step} {index : Nat} (context : Context) :
      Performs collaborators (.rounds body index []) context [] (.ok []) context []
  | broken {body : List Step} {index : Nat} {item : Value} {rest : List Value}
      {context inner : Context} {log : List RunTurn} {failure : Failure} {deeds : List Deed}
      (round : Performs collaborators (.steps body) (context.iterate item index) log
        (.error failure) inner deeds) :
      Performs collaborators (.rounds body index (item :: rest)) context log (.error failure)
        inner.outer deeds
  | repeated {body : List Step} {index : Nat} {item : Value} {rest : List Value}
      {context inner last : Context} {front back : List RunTurn} {values : List Value}
      {outcome : Except Failure (List Value)} {early late : List Deed}
      (round : Performs collaborators (.steps body) (context.iterate item index) front
        (.ok values) inner early)
      (later : Performs collaborators (.rounds body (index + 1) rest) inner.outer back outcome last
        late) :
      Performs collaborators (.rounds body index (item :: rest)) context (front ++ back)
        (outcome.map (values ++ ·)) last (early ++ late)

section Talks

variable {collaborators : Collaborators} {context last : Context} {log : List RunTurn}

/-- What is made of the value of an activity does not matter to its talk. -/
theorem talks_then_iff {α β : Type} {activity : Activity α} {f : α → β}
    {outcome : Except Failure β} :
    Talks ((activity >>= fun value => Activity.pure (f value)) context) log (outcome, last) ↔
      ∃ inner, outcome = inner.map f ∧ Talks (activity context) log (inner, last) := by
  rw [Activity.talks_bind_iff]
  constructor
  · rintro (⟨failure, rfl, talks⟩ | ⟨value, middle, front, back, rfl, talks, after⟩)
    · exact ⟨.error failure, rfl, talks⟩
    · obtain ⟨rfl, rfl, rfl⟩ := talks_pure_iff.mp after
      exact ⟨.ok value, rfl, by simpa using talks⟩
  · rintro ⟨failure | value, rfl, talks⟩
    · exact .inl ⟨failure, rfl, talks⟩
    · exact .inr ⟨value, last, log, [], by simp, talks, .done _⟩

theorem talks_bound_iff {target : Option String} {activity : Activity Value}
    {outcome : Except Failure Value} :
    Talks (bound target activity context) log (outcome, last) ↔
      ∃ finish, last = settle (nonEmpty target) outcome finish ∧
        Talks (activity context) log (outcome, finish) := by
  unfold bound
  rw [Activity.talks_bind_iff]
  cases nonEmpty target with
  | none =>
      constructor
      · rintro (⟨failure, rfl, talks⟩ | ⟨value, middle, front, back, rfl, talks, after⟩)
        · exact ⟨_, rfl, talks⟩
        · obtain ⟨rfl, rfl, rfl⟩ := talks_pure_iff.mp after
          exact ⟨_, rfl, by simpa using talks⟩
      · rintro ⟨finish, rfl, talks⟩
        cases outcome with
        | error failure => exact .inl ⟨failure, rfl, talks⟩
        | ok value => exact .inr ⟨value, finish, log, [], by simp, talks, .done _⟩
  | some name =>
      constructor
      · rintro (⟨failure, rfl, talks⟩ | ⟨value, middle, front, back, rfl, talks, after⟩)
        · exact ⟨_, rfl, talks⟩
        · obtain ⟨inner, rfl, assigned⟩ := talks_then_iff.mp after
          obtain ⟨rfl, rfl, rfl⟩ := talks_assign_iff.mp assigned
          rw [List.append_nil]
          exact ⟨_, rfl, talks⟩
      · rintro ⟨finish, rfl, talks⟩
        cases outcome with
        | error failure => exact .inl ⟨failure, rfl, talks⟩
        | ok value => exact .inr ⟨value, finish, log, [], by simp, talks, .done _⟩

/-- A step without steps in it talks as its activity does. -/
theorem talks_leaf_iff {step : Step} {activity : Activity Value}
    {outcome : Except Failure Value}
    (own : leafActivity? collaborators step = some activity) :
    Talks (runStep collaborators step context) log (outcome, last) ↔
      ∃ finish, last = settle step.target? outcome finish ∧
        Talks (activity context) log (outcome, finish) := by
  cases step with
  | query | email | webhook | plugin | notify | delay => cases own; exact talks_bound_iff
  | condition | loop => cases own

theorem runStep_condition (target : Option String) (test : Condition)
    (onTrue onFalse : List Step) :
    runStep collaborators (.condition target (some test) onTrue onFalse) =
      bound target (Activity.context >>= fun context =>
        runSteps collaborators (if test.evaluate context.toValue then onTrue else onFalse) >>=
          fun _ => Activity.pure .null) := by
  have unfolds : runStep collaborators (.condition target (some test) onTrue onFalse) =
      bound target (Activity.context >>= fun context =>
        if test.evaluate context.toValue
          then runSteps collaborators onTrue >>= fun _ => Activity.pure .null
          else runSteps collaborators onFalse >>= fun _ => Activity.pure .null) := rfl
  rw [unfolds]
  congr 2
  funext context
  split <;> rfl

theorem runStep_loop (target : Option String) (items : Value) (body : List Step) :
    runStep collaborators (.loop target (some items) (some body)) =
      bound target (loopItems items >>= fun values =>
        forEach (runSteps collaborators body) 0 values >>= fun outcomes =>
          Activity.pure (.list outcomes)) := rfl

/-- A refused step asks nothing, changes nothing and binds nothing. -/
theorem Refuses.runStep_eq {step : Step} {failure : Failure}
    (refuses : Refuses context step failure) :
    runStep collaborators step context = .done (.error failure, context) := by
  cases refuses with
  | testless => rfl
  | itemless target body => cases body <;> rfl
  | bodiless => rfl
  | @unlisted items _ target body fails =>
      rw [runStep_loop]
      show ((loopItems items context).bind _).bind _ = _
      rw [fails]
      rfl

theorem Refuses.performs {step : Step} {failure : Failure} {outcome : Except Failure Value}
    (refuses : Refuses context step failure)
    (talks : Talks (runStep collaborators step context) log (outcome, last)) :
    ∃ deeds, Performs collaborators (.step step) context log
      (outcome.map fun value => [value]) last deeds := by
  rw [refuses.runStep_eq] at talks
  obtain ⟨rfl, ⟨⟩⟩ := talks_done_iff.mp talks
  exact ⟨_, .refused refuses⟩

theorem talks_condition_iff {target : Option String} {test : Condition}
    {onTrue onFalse : List Step} {outcome : Except Failure Value} :
    Talks (runStep collaborators (.condition target (some test) onTrue onFalse) context) log
        (outcome, last) ↔
      ∃ inner finish, outcome = inner.map (fun _ => .null) ∧
        last = settle (nonEmpty target) outcome finish ∧
        Talks (runSteps collaborators
          (if test.evaluate context.toValue then onTrue else onFalse) context) log
          (inner, finish) := by
  rw [runStep_condition, talks_bound_iff]
  constructor
  · rintro ⟨finish, rfl, talks⟩
    obtain ⟨inner, rfl, inside⟩ := talks_then_iff.mp talks
    exact ⟨inner, finish, rfl, rfl, inside⟩
  · rintro ⟨inner, finish, rfl, rfl, inside⟩
    exact ⟨finish, rfl, talks_then_iff.mpr ⟨inner, rfl, inside⟩⟩

theorem talks_loop_iff {target : Option String} {items : Value} {body : List Step}
    {values : List Value} {outcome : Except Failure Value}
    (found : loopItems items context = .done (.ok values, context)) :
    Talks (runStep collaborators (.loop target (some items) (some body)) context) log
        (outcome, last) ↔
      ∃ inner finish, outcome = inner.map .list ∧
        last = settle (nonEmpty target) outcome finish ∧
        Talks (forEach (runSteps collaborators body) 0 values context) log (inner, finish) := by
  have goesOn : (loopItems items >>= fun values =>
      forEach (runSteps collaborators body) 0 values >>= fun outcomes =>
        Activity.pure (Value.list outcomes)) context =
      (forEach (runSteps collaborators body) 0 values >>= fun outcomes =>
        Activity.pure (Value.list outcomes)) context := by
    show (loopItems items context).bind _ = _
    rw [found]
    rfl
  rw [runStep_loop, talks_bound_iff, goesOn]
  constructor
  · rintro ⟨finish, rfl, talks⟩
    obtain ⟨inner, rfl, inside⟩ := talks_then_iff.mp talks
    exact ⟨inner, finish, rfl, rfl, inside⟩
  · rintro ⟨inner, finish, rfl, rfl, inside⟩
    exact ⟨finish, rfl, talks_then_iff.mpr ⟨inner, rfl, inside⟩⟩

theorem talks_steps_iff {step : Step} {rest : List Step} {outcome : Except Failure (List Value)} :
    Talks (runSteps collaborators (step :: rest) context) log (outcome, last) ↔
      (∃ failure, outcome = .error failure ∧
        Talks (runStep collaborators step context) log (.error failure, last)) ∨
      ∃ value middle front back others, log = front ++ back ∧ outcome = others.map (value :: ·) ∧
        Talks (runStep collaborators step context) front (.ok value, middle) ∧
        Talks (runSteps collaborators rest middle) back (others, last) := by
  have unfolds : runSteps collaborators (step :: rest) = runStep collaborators step >>= fun value =>
      runSteps collaborators rest >>= fun values => Activity.pure (value :: values) := rfl
  rw [unfolds, Activity.talks_bind_iff]
  refine or_congr_right ?_
  constructor
  · rintro ⟨value, middle, front, back, rfl, first, later⟩
    obtain ⟨others, rfl, after⟩ := talks_then_iff.mp later
    exact ⟨value, middle, front, back, others, rfl, rfl, first, after⟩
  · rintro ⟨value, middle, front, back, others, rfl, rfl, first, after⟩
    exact ⟨value, middle, front, back, rfl, first, talks_then_iff.mpr ⟨others, rfl, after⟩⟩

theorem talks_forEach_iff {body : Activity (List Value)} {index : Nat} {item : Value}
    {rest : List Value} {outcome : Except Failure (List Value)} :
    Talks (forEach body index (item :: rest) context) log (outcome, last) ↔
      (∃ failure inner, outcome = .error failure ∧ last = inner.outer ∧
        Talks (body (context.iterate item index)) log (.error failure, inner)) ∨
      ∃ values inner front back others, log = front ++ back ∧
        outcome = others.map (values ++ ·) ∧
        Talks (body (context.iterate item index)) front (.ok values, inner) ∧
        Talks (forEach body (index + 1) rest inner.outer) back (others, last) := by
  have unfolds : forEach body index (item :: rest) = within item index body >>= fun values =>
      forEach body (index + 1) rest >>= fun others => Activity.pure (values ++ others) := rfl
  rw [unfolds, Activity.talks_bind_iff]
  constructor
  · rintro (⟨failure, rfl, talks⟩ | ⟨values, middle, front, back, rfl, first, later⟩)
    · obtain ⟨inner, rfl, round⟩ := talks_within_iff.mp talks
      exact .inl ⟨failure, inner, rfl, rfl, round⟩
    · obtain ⟨inner, rfl, round⟩ := talks_within_iff.mp first
      obtain ⟨others, rfl, after⟩ := talks_then_iff.mp later
      exact .inr ⟨values, inner, front, back, others, rfl, rfl, round, after⟩
  · rintro (⟨failure, inner, rfl, rfl, round⟩ |
      ⟨values, inner, front, back, others, rfl, rfl, round, after⟩)
    · exact .inl ⟨failure, rfl, talks_within_iff.mpr ⟨inner, rfl, round⟩⟩
    · exact .inr ⟨values, inner.outer, front, back, rfl, talks_within_iff.mpr ⟨inner, rfl, round⟩,
        talks_then_iff.mpr ⟨others, rfl, after⟩⟩

theorem Performs.talks {work : Work} {outcome : Except Failure (List Value)} {deeds : List Deed}
    (performs : Performs collaborators work context log outcome last deeds) :
    Talks (work.activity collaborators context) log (outcome, last) := by
  induction performs with
  | leaf own talks =>
      exact talks_then_iff.mpr ⟨_, rfl, (talks_leaf_iff own).mpr ⟨_, rfl, talks⟩⟩
  | refused refuses =>
      refine talks_then_iff.mpr ⟨.error _, rfl, ?_⟩
      rw [refuses.runStep_eq]
      exact .done _
  | branched branch ih =>
      exact talks_then_iff.mpr ⟨_, by cases ‹Except Failure (List Value)› <;> rfl,
        talks_condition_iff.mpr ⟨_, _, rfl, rfl, ih⟩⟩
  | looped found rounds ih =>
      exact talks_then_iff.mpr ⟨_, by cases ‹Except Failure (List Value)› <;> rfl,
        (talks_loop_iff found).mpr ⟨_, _, rfl, rfl, ih⟩⟩
  | idle => exact .done _
  | stopped first ih =>
      obtain ⟨inner, same, talks⟩ := talks_then_iff.mp ih
      cases inner with
      | error failure =>
          cases same
          exact talks_steps_iff.mpr (.inl ⟨_, rfl, talks⟩)
      | ok value => cases same
  | followed first later ih₁ ih₂ =>
      obtain ⟨inner, same, talks⟩ := talks_then_iff.mp ih₁
      cases inner with
      | error failure => cases same
      | ok value =>
          cases same
          exact talks_steps_iff.mpr (.inr ⟨value, _, _, _, _, rfl, rfl, talks, ih₂⟩)
  | finished => exact .done _
  | broken round ih => exact talks_forEach_iff.mpr (.inl ⟨_, _, rfl, rfl, ih⟩)
  | repeated round later ih₁ ih₂ =>
      exact talks_forEach_iff.mpr (.inr ⟨_, _, _, _, _, rfl, rfl, ih₁, ih₂⟩)

theorem performs_rounds {body : List Step}
    (performs : ∀ {context log outcome last},
      Talks (runSteps collaborators body context) log (outcome, last) →
        ∃ deeds, Performs collaborators (.steps body) context log outcome last deeds)
    {items : List Value} {index : Nat} {context : Context} {log : List RunTurn}
    {outcome : Except Failure (List Value)} {last : Context}
    (talks : Talks (forEach (runSteps collaborators body) index items context) log
      (outcome, last)) :
    ∃ deeds, Performs collaborators (.rounds body index items) context log outcome last deeds := by
  induction items generalizing index context log outcome last with
  | nil =>
      obtain ⟨rfl, rfl, rfl⟩ := talks_pure_iff.mp talks
      exact ⟨[], .finished _⟩
  | cons item rest ih =>
      rcases talks_forEach_iff.mp talks with ⟨failure, inner, rfl, rfl, round⟩ |
        ⟨values, inner, front, back, others, rfl, rfl, round, later⟩
      · obtain ⟨deeds, performed⟩ := performs round
        exact ⟨deeds, .broken performed⟩
      · obtain ⟨early, first⟩ := performs round
        obtain ⟨late, second⟩ := ih later
        exact ⟨early ++ late, .repeated first second⟩

mutual

/-- Every talk of a step is a performance. -/
theorem performs_step :
    (step : Step) → {context : Context} → {log : List RunTurn} →
      {outcome : Except Failure Value} → {last : Context} →
      Talks (runStep collaborators step context) log (outcome, last) →
        ∃ deeds, Performs collaborators (.step step) context log
          (outcome.map fun value => [value]) last deeds
  | .query .., _, _, _, _, talks | .email .., _, _, _, _, talks | .webhook .., _, _, _, _, talks
  | .plugin .., _, _, _, _, talks | .notify .., _, _, _, _, talks
  | .delay .., _, _, _, _, talks => by
      obtain ⟨finish, rfl, own⟩ := talks_bound_iff.mp talks
      exact ⟨_, .leaf rfl own⟩
  | .condition target none onTrue onFalse, _, _, _, _, talks =>
      (Refuses.testless target onTrue onFalse).performs talks
  | .condition target (some test) onTrue onFalse, context, log, outcome, last, talks => by
      obtain ⟨inner, finish, rfl, rfl, inside⟩ := talks_condition_iff.mp talks
      have ⟨deeds, branch⟩ : ∃ deeds, Performs collaborators
          (.steps (if test.evaluate context.toValue then onTrue else onFalse)) context log inner
          finish deeds := by
        revert inside
        split
        · exact performs_steps onTrue
        · exact performs_steps onFalse
      cases inner with
      | error failure => exact ⟨_, .branched branch⟩
      | ok values => exact ⟨_, .branched branch⟩
  | .loop target none body, _, _, _, _, talks => (Refuses.itemless target body).performs talks
  | .loop target (some items) none, _, _, _, _, talks =>
      (Refuses.bodiless target items).performs talks
  | .loop target (some items) (some body), context, _, _, _, talks => by
      obtain ⟨failure | values, found⟩ := loopItems_silent items context
      · exact (Refuses.unlisted target body found).performs talks
      · obtain ⟨inner, finish, rfl, rfl, inside⟩ := (talks_loop_iff found).mp talks
        obtain ⟨deeds, rounds⟩ := performs_rounds (performs_steps body) inside
        cases inner with
        | error failure => exact ⟨_, .looped found rounds⟩
        | ok values => exact ⟨_, .looped found rounds⟩

theorem performs_steps :
    (steps : List Step) → {context : Context} → {log : List RunTurn} →
      {outcome : Except Failure (List Value)} → {last : Context} →
      Talks (runSteps collaborators steps context) log (outcome, last) →
        ∃ deeds, Performs collaborators (.steps steps) context log outcome last deeds
  | [], _, _, _, _, talks => by
      obtain ⟨rfl, rfl, rfl⟩ := talks_pure_iff.mp talks
      exact ⟨[], .idle _⟩
  | step :: rest, _, _, _, _, talks => by
      rcases talks_steps_iff.mp talks with ⟨failure, rfl, first⟩ |
        ⟨value, middle, front, back, others, rfl, rfl, first, later⟩
      · obtain ⟨deeds, performed⟩ := performs_step step first
        exact ⟨deeds, .stopped performed⟩
      · obtain ⟨early, performed⟩ := performs_step step first
        obtain ⟨late, after⟩ := performs_steps rest later
        exact ⟨early ++ late, .followed performed after⟩

end

/-- The talks of a work are those of its performances. -/
theorem talks_work_iff {work : Work} {outcome : Except Failure (List Value)} :
    Talks (work.activity collaborators context) log (outcome, last) ↔
      ∃ deeds, Performs collaborators work context log outcome last deeds := by
  refine ⟨fun talks => ?_, fun ⟨_, performs⟩ => performs.talks⟩
  cases work with
  | step step =>
      obtain ⟨inner, rfl, own⟩ := talks_then_iff.mp talks
      exact performs_step step own
  | steps steps => exact performs_steps steps talks
  | rounds body index items => exact performs_rounds (performs_steps body) talks

end Talks

section Deeds

variable {collaborators : Collaborators} {work : Work} {context last : Context}
  {log : List RunTurn} {outcome : Except Failure (List Value)} {deeds : List Deed}

/-- How a deed came about: the turns of all of it, and the deeds in it. -/
inductive Carries (collaborators : Collaborators) : Deed → List RunTurn → List Deed → Prop
  | leaf {step : Step} {activity : Activity Value} {context finish : Context}
      {log : List RunTurn} {outcome : Except Failure Value}
      (own : leafActivity? collaborators step = some activity)
      (talks : Talks (activity context) log (outcome, finish)) :
      Carries collaborators ⟨step, context, log, outcome, finish⟩ log []
  | refused {step : Step} {context : Context} {failure : Failure}
      (refuses : Refuses context step failure) :
      Carries collaborators ⟨step, context, [], .error failure, context⟩ [] []
  | branched {target : Option String} {test : Condition} {onTrue onFalse : List Step}
      {context finish : Context} {log : List RunTurn} {outcome : Except Failure (List Value)}
      {deeds : List Deed}
      (branch : Performs collaborators
        (.steps (if test.evaluate context.toValue then onTrue else onFalse)) context log outcome
        finish deeds) :
      Carries collaborators ⟨.condition target (some test) onTrue onFalse, context, [],
        outcome.map fun _ => .null, finish⟩ log deeds
  | looped {target : Option String} {items : Value} {body : List Step}
      {context finish : Context} {values : List Value} {log : List RunTurn}
      {outcome : Except Failure (List Value)} {deeds : List Deed}
      (found : loopItems items context = .done (.ok values, context))
      (rounds : Performs collaborators (.rounds body 0 values) context log outcome finish deeds) :
      Carries collaborators ⟨.loop target (some items) (some body), context, [],
        outcome.map .list, finish⟩ log deeds

/-- A part of a performance: the deeds in a deed stand just before it, and its turns are together. -/
structure Part (collaborators : Collaborators) (log : List RunTurn) (deeds : List Deed)
    (deed : Deed) (turns : List RunTurn) (inner : List Deed) : Prop where
  among : inner ++ [deed] <:+: deeds
  together : turns <:+: log
  carries : Carries collaborators deed turns inner

theorem Part.mono {part whole : List RunTurn} {some all : List Deed} {deed : Deed}
    {turns : List RunTurn} {inner : List Deed}
    (holds : Part collaborators part some deed turns inner) (log : part <:+: whole)
    (deeds : some <:+: all) : Part collaborators whole all deed turns inner :=
  ⟨holds.among.trans deeds, holds.together.trans log, holds.carries⟩

/-- Every deed of a performance came about in its own right. -/
theorem Performs.part (performs : Performs collaborators work context log outcome last deeds) :
    ∀ deed ∈ deeds, ∃ turns inner, Part collaborators log deeds deed turns inner := by
  induction performs with
  | leaf own talks =>
      intro deed found
      cases List.mem_singleton.mp found
      exact ⟨_, [], List.infix_refl _, List.infix_refl _, .leaf own talks⟩
  | refused refuses =>
      intro deed found
      cases List.mem_singleton.mp found
      exact ⟨_, [], List.infix_refl _, List.infix_refl _, .refused refuses⟩
  | branched branch ih =>
      intro deed found
      rcases List.mem_append.mp found with inside | found
      · obtain ⟨turns, inner, holds⟩ := ih deed inside
        exact ⟨turns, inner, holds.mono (List.infix_refl _) (List.prefix_append _ _).isInfix⟩
      · cases List.mem_singleton.mp found
        exact ⟨_, _, List.infix_refl _, List.infix_refl _, .branched branch⟩
  | looped items rounds ih =>
      intro deed found
      rcases List.mem_append.mp found with inside | found
      · obtain ⟨turns, inner, holds⟩ := ih deed inside
        exact ⟨turns, inner, holds.mono (List.infix_refl _) (List.prefix_append _ _).isInfix⟩
      · cases List.mem_singleton.mp found
        exact ⟨_, _, List.infix_refl _, List.infix_refl _, .looped items rounds⟩
  | idle | finished => simp
  | stopped _ ih | broken _ ih => exact ih
  | followed _ _ ih₁ ih₂ | repeated _ _ ih₁ ih₂ =>
      intro deed found
      rcases List.mem_append.mp found with early | late
      · obtain ⟨turns, inner, holds⟩ := ih₁ deed early
        exact ⟨turns, inner,
          holds.mono (List.prefix_append _ _).isInfix (List.prefix_append _ _).isInfix⟩
      · obtain ⟨turns, inner, holds⟩ := ih₂ deed late
        exact ⟨turns, inner,
          holds.mono (List.suffix_append _ _).isInfix (List.suffix_append _ _).isInfix⟩

/-- The talk of a performance is made of the turns of its deeds. -/
theorem Performs.log_eq (performs : Performs collaborators work context log outcome last deeds) :
    log = deeds.flatMap Deed.asked := by
  induction performs with
  | leaf | refused | idle | finished => simp
  | branched _ ih | looped _ _ ih => simpa using ih
  | stopped _ ih | broken _ ih => exact ih
  | followed _ _ ih₁ ih₂ | repeated _ _ ih₁ ih₂ => rw [List.flatMap_append, ← ih₁, ← ih₂]

end Deeds

section Runs

variable {collaborators : Collaborators} {context last : Context} {log : List RunTurn}

/-- A run talks as its steps do, and fails with the failure of its steps. -/
theorem talks_runFrom {position : Nat} {steps : List Step} {entries : List LogEntry}
    {failed : Option Failure}
    (talks : Talks (runFrom collaborators position steps context) log ((entries, failed), last)) :
    ∃ outcome, Talks (runSteps collaborators steps context) log (outcome, last) ∧
      failed = match outcome with
        | .ok _ => none
        | .error failure => some failure := by
  induction steps generalizing position context log entries with
  | nil =>
      obtain ⟨rfl, ⟨⟩⟩ := talks_done_iff.mp talks
      exact ⟨.ok [], .done _, rfl⟩
  | cons step rest ih =>
      obtain ⟨front, ⟨failure | value, middle⟩, back, rfl, first, later⟩ :=
        Orchestra.talks_bind_iff.mp talks
      · obtain ⟨rfl, ⟨⟩⟩ := talks_done_iff.mp later
        rw [List.append_nil]
        exact ⟨.error failure, talks_steps_iff.mpr (.inl ⟨failure, rfl, first⟩), rfl⟩
      · obtain ⟨⟨⟨others, failed⟩, _⟩, after, ⟨⟩⟩ := talks_map_iff.mp later
        obtain ⟨outcome, inside, same⟩ := ih after
        refine ⟨outcome.map (value :: ·), talks_steps_iff.mpr
          (.inr ⟨value, middle, front, back, outcome, rfl, rfl, first, inside⟩), ?_⟩
        cases outcome with
        | error => exact same
        | ok => exact same

/-- A run performs its steps; its result is that of the steps. -/
theorem performs_run {workflow : Definition} {result : RunResult}
    (talks : Talks (runWorkflow collaborators workflow context) log (result, last)) :
    ∃ outcome deeds, Performs collaborators (.steps workflow.steps)
        (context.startedBy workflow.name) log outcome last deeds ∧
      result.outcome = outcome.map fun _ => last.bindings.entries := by
  obtain ⟨⟨⟨entries, failed⟩, last⟩, inside, same⟩ := talks_map_iff.mp talks
  obtain ⟨outcome, steps, rfl⟩ := talks_runFrom inside
  cases outcome with
  | error failure =>
      cases same
      obtain ⟨deeds, performs⟩ := performs_steps _ steps
      exact ⟨_, deeds, performs, rfl⟩
  | ok values =>
      cases same
      obtain ⟨deeds, performs⟩ := performs_steps _ steps
      exact ⟨_, deeds, performs, rfl⟩

end Runs

end Orchestra.Execution
