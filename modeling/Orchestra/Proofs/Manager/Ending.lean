import Orchestra.Proofs.Manager.Chart

/-!
Cascades die out.

Every act of a manager but a request from outside lightens what is still to do: a job that is made is
one step deeper than the run that made it, an attempt that is repeated counts against a budget, and a
run goes on in a smaller rest of itself. So a run with finitely many requests comes to its end.
-/

namespace Orchestra.Manager

open Queue Routing Execution

variable {Time : Type}

/-- What is still to do, where the jobs stand at the depths of a chart. -/
def load (maxDepth : Int) (chart : JobId → Value) (manager : Manager Time) : Multiset Burden :=
  Scales.load ⟨fun id => hops maxDepth (chart id), manager.queue.budget⟩
    (manager.queue, manager.attempts)

section Load

variable {maxDepth : Int} {chart : JobId → Value} {manager : Manager Time} {queue : Queue Time}
  {dropped : List Job} {first last : List Attempt} {attempt : Attempt} {id : JobId} {rest : Running}

theorem load_insert :
    load maxDepth chart (⟨queue, dropped, first ++ attempt :: last⟩ : Manager Time) =
      load maxDepth chart (⟨queue, dropped, first ++ last⟩ : Manager Time) +
        {Scales.attempt ⟨fun id => hops maxDepth (chart id), queue.budget⟩ attempt} := by
  simp only [load, Scales.load, List.map_append, List.map_cons, ← Multiset.coe_add,
    ← Multiset.cons_coe, ← Multiset.singleton_add]
  abel

theorem load_carryOn :
    load maxDepth chart (manager.carryOn id rest) =
      load maxDepth chart manager + {⟨hops maxDepth (chart id), 1, some rest⟩} := by
  have same : Scales.load ⟨fun id => hops maxDepth (chart id), manager.queue.budget⟩
      ((manager.carryOn id rest).queue, manager.attempts) = load maxDepth chart manager :=
    Scales.load_edit_same (fun job =>
      { job with context := { rest.held with bindings := .root rest.held.bindings.base } })
      (fun _ => rfl) rfl rfl
  rw [← same]
  show Scales.load _ (_, manager.attempts ++ [_]) = _
  simp only [Scales.load, List.map_append, ← Multiset.coe_add, ← add_assoc]
  rfl

/-- New entries of a chart do not show in what was to do before. -/
theorem Charted.load_extended (charted : Charted chart manager) (depth : Value) :
    Scales.load ⟨fun id => hops maxDepth (extended chart manager.queue.issued depth id),
      manager.queue.budget⟩ (manager.queue, manager.attempts) = load maxDepth chart manager := by
  refine Scales.load_congr rfl (fun job member => ?_) fun attempt member => ?_
  · have listed : job.id ∈ manager.queue.roster.ids := by
      rw [ids_roster]
      exact List.mem_map_of_mem member
    exact congrArg (hops maxDepth) (extended_of_lt (charted.sound.issued_of_ids listed))
  · exact congrArg (hops maxDepth) (extended_of_lt (charted.issued member))

end Load

section Acts

variable {collaborators : Collaborators} {maxDepth : Int} {chart : JobId → Value}
  {before after : Manager Time} {act : Act}

/-- Somebody outside asks for something. -/
def Act.IsAsked : Act → Prop
  | .asked _ => True
  | _ => False

/-- What keeps the roster leads to a chart that shows the same change of what is to do. -/
theorem Charted.kept (maxDepth : Int) (charted : Charted chart before) {scene : Scene Time (List Attempt)}
    (sound : Sound scene.1) (keeps : Keeps (before.queue, before.attempts) scene)
    (Changes : Multiset Burden → Multiset Burden → Prop)
    (changes : ∀ scales : Scales, scales.budget = before.queue.budget →
      Changes (scales.load scene) (scales.load (before.queue, before.attempts))) :
    ∃ next : JobId → Value,
      Charted next ⟨scene.1, before.dropped ++ missing before.queue scene.1, scene.2⟩ ∧
        Changes (load maxDepth next
          ⟨scene.1, before.dropped ++ missing before.queue scene.1, scene.2⟩)
          (load maxDepth chart before) := by
  have grown : Extends {} (before.queue, before.attempts) scene := keeps.extends sound
  refine ⟨_, charted.used (Value.exact_int 0) grown, ?_⟩
  have changed := changes
    ⟨fun id => hops maxDepth (extended chart before.queue.issued (.int 0) id),
      before.queue.budget⟩ rfl
  rwa [charted.load_extended, ← show scene.1.budget = before.queue.budget from
    budget_congr keeps.roster] at changed

/-- An attempt goes on in a lighter rest of its run. -/
theorem Charted.goesOn (maxDepth : Int) {queue : Queue Time} {dropped : List Job} {first last : List Attempt}
    {attempt : Attempt} {rest : Running}
    (charted : Charted chart ⟨queue, dropped, first ++ attempt :: last⟩)
    (stays : rest.StaysAt (chart attempt.job))
    (lighter : Burden.Lighter ⟨hops maxDepth (chart attempt.job), 1, some rest⟩
      (Scales.attempt ⟨fun id => hops maxDepth (chart id), queue.budget⟩ attempt)) :
    Charted chart (Manager.carryOn attempt.job rest ⟨queue, dropped, first ++ last⟩) ∧
      Lightens (load maxDepth chart (Manager.carryOn attempt.job rest ⟨queue, dropped, first ++ last⟩))
        (load maxDepth chart ⟨queue, dropped, first ++ attempt :: last⟩) := by
  have known : Knows ⟨queue, dropped, first ++ last⟩ attempt.job :=
    charted.known attempt (by simp)
  refine ⟨charted.without.carryOn known stays, ?_⟩
  rw [load_carryOn, load_insert]
  refine lightens_replace _ fun burden member => ?_
  exact Multiset.mem_singleton.mp member ▸ lighter

/-- The reported jobs and what remains of the attempt are lighter than the attempt was. -/
theorem Charted.reported {queue : Queue Time} {dropped : List Job} {first last : List Attempt}
    {id : JobId} {context : Context} {news : EntityReport} {next : Answer → Running}
    {answer : Answer} (moment : Moment Time)
    (charted : Charted chart
      ⟨queue, dropped, first ++ .underway id (.ask ⟨context, .report news⟩ next) :: last⟩)
    {scene : Scene Time (List Attempt)}
    (started : (startOnReport moment.around (.int maxDepth) news (queue, first ++ last)).2 = scene) :
    ∃ later : JobId → Value,
      Charted later
        (Manager.carryOn id (next answer) ⟨scene.1, dropped ++ missing queue scene.1, scene.2⟩) ∧
      Lightens
        (load maxDepth later
          (Manager.carryOn id (next answer) ⟨scene.1, dropped ++ missing queue scene.1, scene.2⟩))
        (load maxDepth chart
          ⟨queue, dropped, first ++ .underway id (.ask ⟨context, .report news⟩ next) :: last⟩) := by
  have stays := charted.depths id (.ask ⟨context, .report news⟩ next) (by simp)
  have known : Knows ⟨queue, dropped, first ++ last⟩ id :=
    charted.known (.underway id (.ask ⟨context, .report news⟩ next)) (by simp)
  have issued : id < queue.issued := charted.without.issued_of_knows known
  have depth : news.depth = chart id := stays.1.2 news rfl
  have sound : Sound ((queue, first ++ last) : Scene Time (List Attempt)).1 := charted.sound
  obtain ⟨made, exact, grown, budget, creates⟩ := startOnReport_creates moment maxDepth sound
    (depth ▸ charted.exact id)
  rw [started] at grown budget creates
  have used := charted.without.used exact grown
  refine ⟨_, used.carryOn known.used ((extended_of_lt issued).symm ▸ stays.2 answer), ?_⟩
  obtain ⟨fresh, fewer, sheds⟩ := creates
    ⟨fun id => hops maxDepth (extended chart queue.issued made.cascade.depth id), queue.budget⟩
    fun id unissued => congrArg (hops maxDepth) (if_neg (Nat.not_lt.mpr unissued))
  rw [charted.without.load_extended, ← show scene.1.budget = queue.budget from budget] at sheds
  have replaced : Lightens
      (load maxDepth chart ⟨queue, dropped, first ++ last⟩ +
        (fresh + {⟨hops maxDepth (chart id), 1, some (next answer)⟩}))
      (load maxDepth chart ⟨queue, dropped, first ++ last⟩ +
        {⟨hops maxDepth (chart id), 1, some (.ask ⟨context, .report news⟩ next)⟩}) := by
    refine lightens_replace _ fun burden member => ?_
    rcases Multiset.mem_add.mp member with job | rest
    · exact Burden.lighter_of_hops (depth ▸ fewer burden job)
    · obtain rfl := Multiset.mem_singleton.mp rest
      exact Burden.lighter_of_remains (.answered _ next answer)
  have carried := sheds.add {⟨hops maxDepth (chart id), 1, some (next answer)⟩}
  rw [load_carryOn, load_insert, extended_of_lt issued]
  refine replaced.trans_right ?_
  rwa [add_comm, add_comm _ (_ + fresh), add_assoc] at carried

/-- Every act leads to a chart again, and all acts but those from outside lighten what is to do. -/
theorem Happens.lightens (happens : Happens collaborators maxDepth before act after)
    (charted : Charted chart before) :
    ∃ next : JobId → Value, Charted next after ∧
      (¬ act.IsAsked → Lightens (load maxDepth next after) (load maxDepth chart before)) := by
  cases happens with
  | asked moment request exact =>
      have sound : Sound ((before.queue, before.attempts) : Scene Time (List Attempt)).1 :=
        charted.sound
      obtain ⟨context, depth, grown⟩ := perform_extends moment sound maxDepth request exact
      exact ⟨_, charted.used depth grown, fun inside => (inside trivial).elim⟩
  | @begun queue dropped first id workflow last job found =>
      have stays := runWorkflow_staysAt collaborators workflow job.context
      rw [charted.depth_of_found found] at stays
      have goes := charted.goesOn maxDepth stays
        (Burden.lighter_of_weight rfl (Nat.lt_succ_self 1))
      exact ⟨chart, goes.1, fun _ => goes.2⟩
  | @answered queue dropped first id last question next foreign answer =>
      have stays := charted.depths id (.ask question next) (by simp)
      have goes := charted.goesOn maxDepth (stays.2 answer)
        (Burden.lighter_of_remains (.answered question next answer))
      exact ⟨chart, goes.1, fun _ => goes.2⟩
  | @reported queue dropped first id last context news next moment bindings jobs manager heard =>
      obtain ⟨rfl, rfl⟩ := Prod.mk.inj heard
      obtain ⟨later, charted, lightens⟩ := charted.reported moment rfl
      exact ⟨later, charted, fun _ => lightens⟩
  | @ended queue dropped first id last result context moment =>
      have settles : ∀ scales : Scales, scales.budget = queue.budget →
          Settles scales (queue, first ++ last)
            (report id (Rehearsal.Task.outcomeOf result) moment.around (queue, first ++ last)) :=
        fun _ budget => report_settles charted.sound.distinct budget _
      obtain ⟨next, later, sheds⟩ := charted.without.kept maxDepth (report_sound charted.sound _)
        (settles (Scales.plain queue) rfl).toKeeps Sheds
        fun scales budget => (settles scales budget).sheds
      refine ⟨next, later, fun _ => ?_⟩
      rw [load_insert]
      exact (lightens_drop _ (Multiset.singleton_ne_zero _)).trans_right sheds
  | @woken _ id moment armed =>
      have moves : Moves moment.around (.wake id) (before.queue, before.attempts) _ :=
        wake_moves around_quiet id _
      obtain ⟨next, later, lightens⟩ := charted.kept maxDepth (moves.sound charted.sound)
        (wake_keeps charted.sound.distinct id) Lightens
        fun scales _ => (wake_lightens scales charted.sound.distinct armed).2
      exact ⟨next, later, fun _ => lightens⟩

theorem Reaches.charted {config : QueueConfig} {manager : Manager Time}
    (reaches : Reaches collaborators maxDepth config manager) :
    ∃ chart : JobId → Value, Charted chart manager := by
  induction reaches with
  | fresh => exact ⟨_, charted_fresh config⟩
  | act _ happens ih =>
      obtain ⟨chart, charted⟩ := ih
      obtain ⟨next, later, -⟩ := happens.lightens charted
      exact ⟨next, later⟩

/-- A manager rests exactly when it has no attempts and no delays left. -/
theorem Reaches.rests_iff {config : QueueConfig} {manager : Manager Time}
    (reaches : Reaches collaborators maxDepth config manager) (moment : Moment Time) :
    (∀ act after, Happens collaborators maxDepth manager act after → act.IsAsked) ↔
      manager.attempts = [] ∧ manager.queue.delayed = [] := by
  obtain ⟨chart, charted⟩ := reaches.charted
  obtain ⟨queue, dropped, attempts⟩ := manager
  constructor
  · intro rests
    constructor
    · rcases attempts with _ | ⟨attempt, last⟩
      · rfl
      have goes : ∃ act after, ¬ Act.IsAsked act ∧
          Happens collaborators maxDepth ⟨queue, dropped, [] ++ attempt :: last⟩ act after := by
        rcases attempt with ⟨id, workflow⟩ | ⟨id, ⟨result, context⟩ | ⟨⟨context, call⟩, next⟩⟩
        · obtain ⟨job, found⟩ := knows_iff.mp (charted.known (.launched id workflow) (by simp))
          exact ⟨.begun id, _, not_false, .begun found⟩
        · exact ⟨.ended id, _, not_false, .ended moment⟩
        · by_cases news : ∃ news, call = .report news
          · obtain ⟨news, rfl⟩ := news
            exact ⟨.answered id, _, not_false, .reported moment (.root []) rfl⟩
          · exact ⟨.answered id, _, not_false,
              .answered (fun other same => news ⟨other, same⟩) ⟨.ok .null, .root []⟩⟩
      obtain ⟨act, after, inside, happens⟩ := goes
      exact (inside (rests act after happens)).elim
    · rcases delayed : queue.delayed with _ | ⟨⟨id, due⟩, rest⟩
      · rfl
      have armed : queue.delayed.any (·.1 == id) := by simp [delayed]
      exact (rests _ _ (.woken moment armed)).elim
  · rintro ⟨none_left, no_delays⟩ act after happens
    cases happens with
    | asked => trivial
    | begun | answered | reported | ended => simp at none_left
    | woken moment armed =>
        rw [no_delays] at armed
        cases armed

/-- A run from a chart in which nobody asks for anything ends: by induction on what is to do. -/
theorem not_forever (collaborators : Collaborators) (maxDepth : Int)
    (heap : Multiset Burden) : ∀ (run : Nat → Manager Time) (act : Nat → Act)
    (chart : JobId → Value), Charted chart (run 0) → load maxDepth chart (run 0) = heap →
    ¬ ∀ n, Happens collaborators maxDepth (run n) (act n) (run (n + 1)) ∧ ¬ (act n).IsAsked := by
  induction heap using lightens_wf.induction with
  | _ heap ih =>
      rintro run act chart charted rfl forever
      obtain ⟨next, later, lightens⟩ := (forever 0).1.lightens charted
      exact ih _ (lightens (forever 0).2) (fun n => run (n + 1)) (fun n => act (n + 1)) next later
        rfl fun n => forever (n + 1)

/-- There is no infinite run in which finitely often something is asked for from outside: whatever
the workflows are and whatever the collaborators answer, finitely many jobs are made and finitely
many attempts are started. -/
theorem cascades_die_out (config : QueueConfig) (collaborators : Collaborators) (maxDepth : Int) :
    ¬ ∃ (run : Nat → Manager Time) (act : Nat → Act), run 0 = fresh config ∧
      (∀ n, Happens collaborators maxDepth (run n) (act n) (run (n + 1))) ∧
      {n | (act n).IsAsked}.Finite := by
  rintro ⟨run, act, start, happens, finite⟩
  have reaches : ∀ n, Reaches collaborators maxDepth config (run n) := by
    intro n
    induction n with
    | zero => exact start ▸ .fresh
    | succ n ih => exact .act ih (happens n)
  obtain ⟨last, past⟩ := finite.bddAbove
  obtain ⟨chart, charted⟩ := (reaches (last + 1)).charted
  refine not_forever collaborators maxDepth _ (fun n => run (last + 1 + n))
    (fun n => act (last + 1 + n)) chart charted rfl fun n => ⟨happens (last + 1 + n), fun asked => ?_⟩
  have bound : last + 1 + n ≤ last := past asked
  omega

end Acts

end Orchestra.Manager
