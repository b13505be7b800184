import Orchestra.Proofs.Execution.Frame
import Orchestra.Proofs.Execution.Performance
import Orchestra.Proofs.Variables

/-!
What a run changes of its variables.

As long as the collaborators leave the variables alone, they are changed by nothing but the bound
outcomes of steps: those of a loop under its own names vanish with the iteration, and all others land
in the variables of the workflow.
-/

namespace Orchestra.Execution

open Activity

/-- The collaborators leave the variables as they are. -/
def Calm (log : List RunTurn) : Prop :=
  ∀ turn ∈ log, turn.answer.bindings = turn.context.bindings

theorem calm_append_iff {front back : List RunTurn} :
    Calm (front ++ back) ↔ Calm front ∧ Calm back :=
  List.forall_mem_append

theorem Calm.infix {part whole : List RunTurn} (calm : Calm whole) (inside : part <:+: whole) :
    Calm part :=
  fun turn found => calm turn (inside.subset found)

section Leaves

variable {collaborators : Collaborators} {context last : Context} {log : List RunTurn}

theorem Looks.calm {change : Change} {before : Value}
    (looks : Looks change context log before last) (calm : Calm log) :
    last.bindings = context.bindings := by
  cases looks with
  | unknown => rfl
  | known known answer => exact calm _ List.mem_cons_self

theorem Makes.calm {alteration : Alteration} {before : Value} {outcome : Except Failure Value}
    (makes : Makes collaborators alteration before context log outcome last) (calm : Calm log) :
    last.bindings = context.bindings := by
  cases makes with
  | failed | untold => exact calm _ List.mem_cons_self
  | told listened answer heard =>
      have told : heard.bindings = answer.bindings :=
        calm _ (List.mem_cons_of_mem _ List.mem_cons_self)
      have asked : answer.bindings = context.bindings := calm _ List.mem_cons_self
      exact told.trans asked

theorem Tells.calm {effect : Effect} {outcome : Except Failure Value}
    (tells : Tells collaborators context effect log outcome last) (calm : Calm log) :
    last.bindings = context.bindings := by
  cases tells with
  | refused => rfl
  | consulted => exact calm _ List.mem_cons_self
  | altered looks makes =>
      obtain ⟨looking, making⟩ := calm_append_iff.mp calm
      exact (makes.calm making).trans (looks.calm looking)

/-- A step without steps in it changes no variable itself. -/
theorem leaf_calm {step : Step} {activity : Activity Value} {outcome : Except Failure Value}
    (own : leafActivity? collaborators step = some activity)
    (talks : Talks (activity context) log (outcome, last)) (calm : Calm log) :
    last.bindings = context.bindings := by
  obtain ⟨effect, -, same⟩ := leafActivity?_comes context own
  rw [same] at talks
  exact (talks_effect_iff.mp talks).calm calm

end Leaves

section Landings

/-- The variable that a deed binds, and its outcome. -/
def Deed.bound? (deed : Deed) : Option (String × Value) :=
  match deed.outcome, deed.step.target? with
  | .ok value, some name => some (name, value)
  | _, _ => none

/-- What a deed binds in the variables that have so many loops around them: the names of a loop
inside them are not theirs. -/
def Deed.landing? (depth : Nat) (deed : Deed) : Option (String × Value) :=
  deed.bound?.filter fun entry =>
    !Variables.isLocal entry.1 || deed.finish.bindings.depth == depth

/-- What deeds bind, in their order. -/
def landings (depth : Nat) (deeds : List Deed) : Fields :=
  deeds.filterMap (Deed.landing? depth)

/-- The variables that have so many loops around them change only as deeds land in them: each deed
ends in what the ones before it left. -/
def Unfolds (depth : Nat) (first : Variables) : List Deed → Variables → Prop
  | [], last => last = first
  | deed :: later, last =>
    deed.finish.bindings.within depth = first ∧
      Unfolds depth (first.update (landings depth [deed])) later last

variable {depth : Nat} {first middle last : Variables} {early late deeds : List Deed}

theorem landings_singleton (deed : Deed) :
    landings depth [deed] = (deed.landing? depth).toList := by
  cases found : deed.landing? depth <;> simp [landings, found]

theorem landings_append :
    landings depth (early ++ late) = landings depth early ++ landings depth late :=
  List.filterMap_append

theorem Unfolds.append (before : Unfolds depth first early middle)
    (after : Unfolds depth middle late last) : Unfolds depth first (early ++ late) last := by
  induction early generalizing first with
  | nil => cases before; exact after
  | cons deed rest ih => exact ⟨before.1, ih before.2⟩

theorem Unfolds.last_eq (unfolds : Unfolds depth first deeds last) :
    last = first.update (landings depth deeds) := by
  induction deeds generalizing first with
  | nil => exact unfolds
  | cons deed rest ih =>
      rw [ih unfolds.2, show deed :: rest = [deed] ++ rest from rfl, landings_append]
      exact (List.foldl_append ..).symm

/-- Deeds have at least as many loops around them as the variables that they land in. -/
theorem Unfolds.depth_le (unfolds : Unfolds depth first deeds last) (fits : first.depth = depth) :
    ∀ deed ∈ deeds, depth ≤ deed.finish.bindings.depth := by
  induction deeds generalizing first with
  | nil => simp
  | cons deed rest ih =>
      rintro other (_ | ⟨_, found⟩)
      · have := congrArg Variables.depth unfolds.1
        rw [Variables.depth_within, fits] at this
        omega
      · exact ih unfolds.2 (by simpa using fits) other found

/-- Around a loop, variables change as those in it do, but for the names of the loop. -/
theorem outer_update_landing {deed : Deed} (inside : depth < deed.finish.bindings.depth)
    (fits : first.depth = depth + 1) :
    (first.update (landings (depth + 1) [deed])).outer =
      first.outer.update (landings depth [deed]) := by
  have written (name : String) (value : Value) : (first.set name value).outer =
      if Variables.isLocal name then first.outer else first.outer.set name value :=
    Variables.outer_set (by omega) name value
  have deeper : (deed.finish.bindings.depth == depth) = false := by
    simpa using (Nat.ne_of_lt inside).symm
  simp only [landings_singleton, Deed.landing?]
  cases deed.bound? with
  | none => rfl
  | some entry =>
      simp only [Option.filter_some, deeper]
      cases own : Variables.isLocal entry.1 with
      | false => simpa [own, Variables.update] using written entry.1 entry.2
      | true =>
          cases deed.finish.bindings.depth == depth + 1 with
          | false => rfl
          | true => simpa [own, Variables.update] using written entry.1 entry.2

theorem Unfolds.outer (unfolds : Unfolds (depth + 1) first deeds last)
    (fits : first.depth = depth + 1) : Unfolds depth first.outer deeds last.outer := by
  induction deeds generalizing first with
  | nil => exact congrArg Variables.outer unfolds
  | cons deed rest ih =>
      have inside : depth < deed.finish.bindings.depth :=
        unfolds.depth_le fits deed List.mem_cons_self
      refine ⟨?_, ?_⟩
      · rw [Variables.within_outer inside, unfolds.1]
      · rw [← outer_update_landing inside fits]
        exact ih unfolds.2 (by simpa using fits)

theorem Unfolds.last_depth (unfolds : Unfolds depth first deeds last) :
    last.depth = first.depth := by
  rw [unfolds.last_eq, Variables.depth_update]

theorem Unfolds.follow (before : Unfolds depth first early middle) (fits : first.depth = depth)
    (after : Unfolds middle.depth middle late last) : Unfolds depth first (early ++ late) last := by
  rw [before.last_depth, fits] at after
  exact before.append after

theorem Unfolds.single (deed : Deed) (fits : deed.finish.bindings.depth = depth) :
    Unfolds depth deed.finish.bindings [deed] deed.landed.bindings := by
  refine ⟨Variables.within_of_depth_le (Nat.le_of_eq fits), ?_⟩
  have all : deed.landing? depth = deed.bound? := by
    unfold Deed.landing?
    cases deed.bound? <;> simp [Option.filter_some, fits]
  rw [landings_singleton, all]
  unfold Deed.landed Deed.bound? settle
  cases deed.outcome with
  | error => rfl
  | ok value => cases deed.step.target? <;> rfl

end Landings

section Performances

variable {collaborators : Collaborators} {work : Work} {context last : Context}
  {log : List RunTurn} {outcome : Except Failure (List Value)} {deeds : List Deed}

/-- Induction on the performance: what a loop does to the variables inside it is seen outside but for
the names of the loop. -/
theorem Performs.unfolds (performs : Performs collaborators work context log outcome last deeds) :
    Calm log → Unfolds context.bindings.depth context.bindings deeds last.bindings := by
  induction performs with
  | leaf own talks =>
      intro calm
      have same := leaf_calm own talks calm
      rw [← same]
      exact .single ⟨_, _, _, _, _⟩ rfl
  | refused => exact fun _ => .single ⟨_, _, _, _, _⟩ rfl
  | branched branch ih | looped found rounds ih =>
      exact fun calm => (ih calm).follow rfl (.single ⟨_, _, _, _, _⟩ rfl)
  | idle | finished => exact fun _ => rfl
  | stopped first ih => exact ih
  | followed first later ih₁ ih₂ =>
      intro calm
      obtain ⟨calm₁, calm₂⟩ := calm_append_iff.mp calm
      exact (ih₁ calm₁).follow rfl (ih₂ calm₂)
  | broken round ih => exact fun calm => (ih calm).outer rfl
  | repeated round later ih₁ ih₂ =>
      intro calm
      obtain ⟨calm₁, calm₂⟩ := calm_append_iff.mp calm
      exact ((ih₁ calm₁).outer rfl).follow rfl (ih₂ calm₂)

/-- Whether a loop ends or breaks off, its names are outside what they were. -/
theorem Performs.rounds_local {body : List Step} {index : Nat} {items : List Value} {name : String}
    (performs : Performs collaborators (.rounds body index items) context log outcome last deeds)
    (calm : Calm log) (own : Variables.isLocal name) :
    last.bindings.get? name = context.bindings.get? name := by
  have around {item : Value} {index : Nat} {context inner : Context} {log : List RunTurn}
      {outcome : Except Failure (List Value)} {deeds : List Deed} (calm : Calm log)
      (round : Performs collaborators (.steps body) (context.iterate item index) log outcome inner
        deeds) : inner.outer.bindings.get? name = context.bindings.get? name := by
    have inside : (context.bindings.iterate item index).depth ≠ 0 := Nat.succ_ne_zero _
    have same : inner.outer.bindings = _ := congrArg Variables.outer (round.unfolds calm).last_eq
    rw [same]
    exact Variables.outer_update_local inside _ own
  induction items generalizing index context log outcome deeds with
  | nil => cases performs; rfl
  | cons item rest ih =>
      cases performs with
      | broken round => exact around calm round
      | repeated round later =>
          obtain ⟨calm₁, calm₂⟩ := calm_append_iff.mp calm
          exact (ih later calm₂).trans (around calm₁ round)

/-- The rounds of a loop from a number on: each carries out the body with its item and its number,
and the next goes on in what it left outside. -/
inductive Rounds (collaborators : Collaborators) (body : List Step) :
    Nat → List Value → Context → List RunTurn → List (List Value) → Context → Prop
  | ended (index : Nat) (context : Context) :
      Rounds collaborators body index [] context [] [] context
  | next {index : Nat} {item : Value} {rest values : List Value} {context inner last : Context}
      {front back : List RunTurn} {others : List (List Value)}
      (round : Talks (runSteps collaborators body (context.iterate item index)) front
        (.ok values, inner))
      (later : Rounds collaborators body (index + 1) rest inner.outer back others last) :
      Rounds collaborators body index (item :: rest) context (front ++ back) (values :: others) last

theorem Performs.rounds {body : List Step} {index : Nat} {items outcomes : List Value}
    (performs : Performs collaborators (.rounds body index items) context log outcome last deeds)
    (ended : outcome = .ok outcomes) :
    ∃ rounds, outcomes = rounds.flatten ∧
      Rounds collaborators body index items context log rounds last := by
  induction items generalizing index context log outcome outcomes deeds with
  | nil =>
      cases performs
      cases ended
      exact ⟨[], rfl, .ended _ _⟩
  | cons item rest ih =>
      cases performs with
      | broken => cases ended
      | @repeated _ _ _ _ _ _ _ _ _ values outcome _ _ round later =>
          cases outcome with
          | error => cases ended
          | ok others =>
              cases ended
              obtain ⟨rounds, rfl, after⟩ := ih later rfl
              exact ⟨values :: rounds, rfl, .next round.talks after⟩

theorem runSteps_length {steps : List Step} {values : List Value}
    (talks : Talks (runSteps collaborators steps context) log (.ok values, last)) :
    values.length = steps.length := by
  induction steps generalizing context log values with
  | nil =>
      obtain ⟨-, ⟨⟩, -⟩ := talks_pure_iff.mp talks
      rfl
  | cons step rest ih =>
      rcases talks_steps_iff.mp talks with ⟨_, ⟨⟩, _⟩ |
        ⟨value, middle, front, back, _ | others, rfl, ⟨⟩, first, later⟩
      exact congrArg (· + 1) (ih later)

/-- Each item has a round, and each step has an outcome in it. -/
theorem Rounds.length_flatten {body : List Step} {index : Nat} {items : List Value}
    {rounds : List (List Value)}
    (turns : Rounds collaborators body index items context log rounds last) :
    rounds.flatten.length = items.length * body.length := by
  induction turns with
  | ended => simp
  | next round later ih =>
      rw [List.flatten_cons, List.length_append, ih, runSteps_length round, List.length_cons,
        Nat.succ_mul, Nat.add_comm]

end Performances

section Runs

variable {collaborators : Collaborators} {work : Work} {context last : Context}
  {log : List RunTurn} {outcome : Except Failure (List Value)} {deeds : List Deed}

/-- A loop leaves the names of loops around it as they are, whether it succeeds or fails. -/
def Deed.SparesNames (deed : Deed) : Prop :=
  ∀ target items body, deed.step = .loop target items body →
    ∀ name, Variables.isLocal name → deed.finish.bindings.get? name = deed.start.bindings.get? name

/-- A loop that succeeds finds its items once, in the context it starts in, and collects the outcomes
of its body round after round. -/
def Deed.Collects (collaborators : Collaborators) (log : List RunTurn) (deed : Deed) : Prop :=
  ∀ target items body result, deed.step = .loop target items body → deed.outcome = .ok result →
    ∃ source steps values turns rounds, items = some source ∧ body = some steps ∧
      loopItems source deed.start = .done (.ok values, deed.start) ∧ turns <:+: log ∧
      Rounds collaborators steps 0 values deed.start turns rounds deed.finish ∧
      result = .list rounds.flatten ∧ rounds.flatten.length = values.length * steps.length

theorem Performs.sparesNames
    (performs : Performs collaborators work context log outcome last deeds) (calm : Calm log) :
    ∀ deed ∈ deeds, deed.SparesNames := by
  intro deed found target items body same name own
  obtain ⟨turns, inner, part⟩ := performs.part deed found
  have calm := calm.infix part.together
  cases part.carries with
  | leaf leaf => cases same; cases leaf
  | refused => rfl
  | branched => cases same
  | looped _ rounds => exact rounds.rounds_local calm own

theorem Performs.collects (performs : Performs collaborators work context log outcome last deeds) :
    ∀ deed ∈ deeds, deed.Collects collaborators log := by
  intro deed found target items body result same succeeds
  obtain ⟨turns, inner, part⟩ := performs.part deed found
  have together := part.together
  cases part.carries with
  | leaf leaf => cases same; cases leaf
  | refused => cases succeeds
  | branched => cases same
  | @looped _ _ _ _ _ _ _ outcome _ items performed =>
      cases same
      cases outcome with
      | error => cases succeeds
      | ok outcomes =>
          cases succeeds
          obtain ⟨rounds, rfl, repeats⟩ := performed.rounds rfl
          exact ⟨_, _, _, turns, rounds, rfl, rfl, items, together, repeats, rfl,
            repeats.length_flatten⟩

theorem bound?_eq_some {deed : Deed} {entry : String × Value} (bound : deed.bound? = some entry) :
    deed.step.target? = some entry.1 ∧ deed.outcome = .ok entry.2 := by
  unfold Deed.bound? at bound
  split at bound
  next outcome target => cases bound; exact ⟨target, outcome⟩
  next => cases bound

theorem mem_landings {depth : Nat} {entry : String × Value} (found : entry ∈ landings depth deeds) :
    ∃ deed ∈ deeds, deed.bound? = some entry := by
  obtain ⟨deed, listed, landing⟩ := List.mem_filterMap.mp found
  exact ⟨deed, listed, (Option.filter_eq_some_iff.mp landing).1⟩

/-- What a run leaves alone, and where the outcomes of its steps go. -/
structure Isolated (collaborators : Collaborators) (first : Variables) (log : List RunTurn)
    (deeds : List Deed) (last : Variables) : Prop where
  /-- The variables change only by what is bound, each time in what was left before. -/
  unfolds : Unfolds first.depth first deeds last
  untouched : ∀ name, (∀ deed ∈ deeds, deed.step.target? ≠ some name) →
    last.get? name = first.get? name
  /-- What is bound last under a name that is not of a loop is there in the end. -/
  lands : ∀ early deed late name value, deeds = early ++ deed :: late →
    deed.bound? = some (name, value) → Variables.isLocal name = false →
    (∀ other ∈ late, ∀ entry, other.bound? = some entry → entry.1 ≠ name) →
    last.base.get? name = some value
  spares : ∀ deed ∈ deeds, deed.SparesNames
  collects : ∀ deed ∈ deeds, deed.Collects collaborators log

theorem Performs.isolated (performs : Performs collaborators work context log outcome last deeds)
    (calm : Calm log) :
    Isolated collaborators context.bindings log deeds last.bindings where
  unfolds := performs.unfolds calm
  untouched name others := by
    rw [(performs.unfolds calm).last_eq]
    refine Variables.get?_update_other _ fun entry found same => ?_
    obtain ⟨deed, listed, bound⟩ := mem_landings found
    exact others deed listed (same ▸ (bound?_eq_some bound).1)
  lands early deed late name value split bound shared others := by
    have landing : landings context.bindings.depth [deed] = [(name, value)] := by
      rw [landings_singleton, Deed.landing?, bound]
      simp [Option.filter_some, shared]
    rw [(performs.unfolds calm).last_eq, split, landings_append,
      show deed :: late = [deed] ++ late from rfl, landings_append, landing]
    refine Variables.base_update_self shared fun entry found => ?_
    obtain ⟨other, listed, bound⟩ := mem_landings found
    exact others other listed entry bound
  spares := performs.sparesNames calm
  collects := performs.collects

theorem startedBy_eq (context : Context) (workflow : String) :
    ∃ source, context.startedBy workflow =
      { context with cascade := { context.cascade with sourceWorkflow := source } } := by
  unfold Context.startedBy
  split
  · exact ⟨_, rfl⟩
  · exact ⟨context.cascade.sourceWorkflow, rfl⟩

/-- A run keeps the trigger, the session, the request and the depth; its variables change only by the
outcomes that its steps bind, and the names of a loop stay inside it. -/
theorem runWorkflow_isolated {workflow : Definition} {result : RunResult}
    (talks : Talks (runWorkflow collaborators workflow context) log (result, last))
    (calm : Calm log) :
    (last.trigger = context.trigger ∧ last.session = context.session ∧
      last.request = context.request ∧ last.cascade.depth = context.cascade.depth) ∧
    ∃ outcome deeds, Performs collaborators (.steps workflow.steps)
        (context.startedBy workflow.name) log outcome last deeds ∧
      result.outcome = outcome.map (fun _ => last.bindings.entries) ∧
      Isolated collaborators context.bindings log deeds last.bindings := by
  obtain ⟨source, started⟩ := startedBy_eq context workflow.name
  constructor
  · have same : last.frame = _ := ((runWorkflow_frame collaborators workflow context).talks talks).2
    rw [started] at same
    obtain ⟨trigger, -, cascade, session, request⟩ := Context.mk.inj same
    exact ⟨trigger, session, request, (congrArg CascadeInfo.depth cascade).trans rfl⟩
  · obtain ⟨outcome, deeds, performs, same⟩ := performs_run talks
    have isolated := performs.isolated calm
    rw [started] at isolated
    exact ⟨outcome, deeds, performs, same, isolated⟩

/-- A loop around a loop, with outcomes bound to the names of loops in both. -/
def nestedLoops : Definition where
  name := "nested"
  steps := [.loop (some "all") (some (.list [.int 1])) (some
    [.loop (some "index") (some (.list [.int 2, .int 3])) (some
      [.query (some "kept") ⟨some "Note", some "find", none, none⟩,
        .query (some "item") ⟨some "Note", some "find", none, none⟩])])]

/-- Finds nothing, and leaves the variables alone. -/
def answerNull (question : Question) (_ : Unit) : Answer × Unit :=
  (⟨.ok .null, question.context.bindings⟩, ())

theorem nestedLoops_isolated : ∃ log result last,
    (Talks (runWorkflow {} nestedLoops { bindings := .root [("item", .str "outside")] }) log
      (result, last) ∧ Calm log ∧
      last.bindings = .root [("item", .str "outside"), ("kept", .null),
        ("all", .list [.list [.null, .null, .null, .null]])]) ∧
    (last.trigger = {} ∧ last.session = .null ∧ last.request = .null ∧
      last.cascade.depth = .int 0) ∧
    ∃ outcome deeds, Performs {} (.steps nestedLoops.steps)
        (({ bindings := .root [("item", .str "outside")] } : Context).startedBy "nested") log outcome
        last deeds ∧
      result.outcome = outcome.map (fun _ => last.bindings.entries) ∧
      Isolated {} (.root [("item", .str "outside")]) log deeds last.bindings := by
  let program := runWorkflow {} nestedLoops { bindings := .root [("item", .str "outside")] }
  have calm : Calm (program.talk (I := conversation) answerNull ()) :=
    forall_mem_talk (fun _ _ => rfl) program ()
  have talks := talks_talk (I := conversation) answerNull program ()
  have ended : (program.run (I := conversation) answerNull ()).1.2.bindings = .root
      [("item", .str "outside"), ("kept", .null),
        ("all", .list [.list [.null, .null, .null, .null]])] := rfl
  obtain ⟨⟨result, last⟩, same⟩ : ∃ final,
      (program.run (I := conversation) answerNull ()).1 = final :=
    ⟨_, rfl⟩
  rw [same] at talks ended
  obtain ⟨⟨trigger, session, request, depth⟩, performs⟩ := runWorkflow_isolated talks calm
  exact ⟨_, result, last, ⟨talks, calm, ended⟩, ⟨trigger, session, request, depth⟩, performs⟩

end Runs

end Orchestra.Execution
