import Orchestra.Proofs.Manager.Settling

/-!
What makes new jobs, and in which contexts.

A change that a run reports makes jobs one step deeper in its cascade. What is asked for from outside
may make jobs at any depth, and may change the workflows.
-/

namespace Orchestra

open Queue Routing

variable {Time : Type}

/-- An operation makes jobs of one context at most, and it launches attempts of jobs only. -/
structure Extends (context : Context) (before after : Scene Time (List Attempt)) : Prop where
  sound : Sound after.1
  issued : before.1.issued ≤ after.1.issued
  contexts : ∀ entry ∈ after.1.roster.contexts, entry ∈ before.1.roster.contexts ∨
    before.1.issued ≤ entry.1 ∧ entry.2 = context
  attempts : ∀ attempt ∈ after.2, attempt ∈ before.2 ∨
    ∃ id ∈ after.1.roster.ids, ∃ workflow, attempt = .launched id workflow

/-- An operation that moreover adds no burdens but those of the jobs it makes. -/
structure Creates (scales : Scales) (context : Context) (before after : Scene Time (List Attempt)) :
    Prop extends Extends context before after where
  budget : after.1.budget = before.1.budget
  kept : before.1.roster.ids ⊆ after.1.roster.ids
  sheds : ∃ made : Multiset Burden,
    (∀ burden ∈ made, ∃ id, before.1.issued ≤ id ∧ burden.hops = scales.hops id) ∧
      Sheds (scales.load after) (scales.load before + made)

section Extends

variable {scales : Scales} {context : Context} {first second third : Scene Time (List Attempt)}

theorem Extends.refl (sound : Sound first.1) : Extends context first first where
  sound := sound
  issued := Nat.le_refl _
  contexts _ member := .inl member
  attempts _ member := .inl member

/-- What keeps the roster makes no job. -/
theorem Keeps.extends (keeps : Keeps first second)
    (after : Sound second.1) : Extends context first second where
  sound := after
  issued := Nat.le_of_eq (congrArg Roster.issued keeps.roster).symm
  contexts entry member := .inl (by rwa [← keeps.roster])
  attempts attempt member := by
    refine (keeps.attempts attempt member).imp_right ?_
    rintro ⟨id, listed, launched⟩
    exact ⟨id, keeps.roster ▸ listed, launched⟩

/-- What launches nothing and keeps the jobs, or drops some of them. -/
theorem Extends.of_sublist (after : Sound second.1)
    (issued : second.1.issued = first.1.issued) (jobs : second.1.jobs.Sublist first.1.jobs)
    (attempts : second.2 = first.2) : Extends context first second where
  sound := after
  issued := Nat.le_of_eq issued.symm
  contexts _ member := .inl ((jobs.map _).subset member)
  attempts _ member := .inl (attempts ▸ member)

theorem Creates.refl (sound : Sound first.1) : Creates scales context first first where
  toExtends := .refl sound
  budget := rfl
  kept _ member := member
  sheds := ⟨0, by simp, by rw [add_zero]⟩

theorem Creates.trans (before : Creates scales context first second)
    (after : Creates scales context second third) : Creates scales context first third where
  sound := after.sound
  issued := Nat.le_trans before.issued after.issued
  contexts entry member := by
    rcases after.contexts entry member with old | ⟨later, same⟩
    · exact before.contexts entry old
    · exact .inr ⟨Nat.le_trans before.issued later, same⟩
  attempts attempt member := by
    rcases after.attempts attempt member with old | new
    · refine (before.attempts attempt old).imp_right ?_
      rintro ⟨id, listed, launched⟩
      exact ⟨id, after.kept listed, launched⟩
    · exact .inr new
  budget := after.budget.trans before.budget
  kept := List.Subset.trans before.kept after.kept
  sheds := by
    obtain ⟨made, own, shed⟩ := before.sheds
    obtain ⟨more, later, again⟩ := after.sheds
    refine ⟨made + more, fun burden member => ?_, again.trans ?_⟩
    · rcases Multiset.mem_add.mp member with old | new
      · exact own burden old
      · obtain ⟨id, issued, same⟩ := later burden new
        exact ⟨id, Nat.le_trans before.issued issued, same⟩
    · have both := shed.add more
      rwa [add_comm more, add_comm more, add_assoc] at both

end Extends

section Making

variable {scales : Scales} {moment : Moment Time} {context : Context}
  {scene : Scene Time (List Attempt)}

/-- The queue with a new job in its line. -/
def Queue.lined (queue : Queue Time) (name : String) (context : Context) (stamp : Stamp) :
    Queue Time :=
  { queue with
    jobs := queue.jobs ++ [queue.newJob name context stamp]
    pending := queue.pending ++ [queue.issued]
    issued := queue.issued + 1 }

theorem roster_lined (queue : Queue Time) (name : String) (context : Context) (stamp : Stamp) :
    (queue.lined name context stamp).roster = { queue.roster with
      issued := queue.issued + 1
      contexts := queue.roster.contexts ++ [(queue.issued, context)] } := by
  simp [roster, lined, newJob]

theorem distinct_lined {queue : Queue Time} (sound : Sound queue) (name : String)
    (context : Context) (stamp : Stamp) : Distinct (queue.lined name context stamp) := by
  have ids : (queue.lined name context stamp).roster.ids = queue.roster.ids ++ [queue.issued] := by
    simp [roster_lined, Roster.ids]
  rw [Distinct, ids]
  refine List.nodup_append.mpr ⟨sound.distinct, List.nodup_singleton _, ?_⟩
  rintro id old other new rfl
  obtain rfl := List.mem_singleton.mp new
  exact Nat.lt_irrefl _ (sound.issued_of_ids old)

theorem enqueue_cases (moment : Moment Time) (name : String) (context : Context)
    (queue : Queue Time) (state : List Attempt) :
    (enqueue moment.around name context (queue, state)).2 = (queue, state) ∨
      (enqueue moment.around name context (queue, state)).2 =
        admitAll moment.around (queue.lined name context moment.stamp, state) := by
  unfold enqueue
  split
  · exact .inl rfl
  · split
    · exact .inl rfl
    · split
      · exact .inl rfl
      · refine .inr ?_
        dsimp only
        rw [tell_around]
        rfl

/-- A job that is put into the line is the only burden that comes with it. -/
theorem enqueue_creates (sound : Sound scene.1) (name : String) (context : Context) :
    Creates scales context scene (enqueue moment.around name context scene).2 := by
  obtain ⟨queue, state⟩ := scene
  have moves : Moves moment.around .stop (queue, state)
      (enqueue moment.around name context (queue, state)).2 :=
    enqueue_moves around_quiet name context sound.fresh
  have after := moves.sound sound
  rcases enqueue_cases moment name context queue state with same | same
  · rw [same]
    exact .refl sound
  rw [same] at after ⊢
  have roster := roster_lined queue name context moment.stamp
  have settles : Settles scales (queue.lined name context moment.stamp, state)
      (admitAll moment.around (queue.lined name context moment.stamp, state)) :=
    admitAll_settles (distinct_lined sound name context moment.stamp)
  generalize admitAll moment.around (queue.lined name context moment.stamp, state) = last
    at after settles
  have same := settles.roster.trans roster
  have issued : last.1.issued = queue.issued + 1 := congrArg Roster.issued same
  refine ⟨⟨after, issued ▸ Nat.le_succ _, ?_, ?_⟩, ?_, ?_, ?_⟩
  · intro entry member
    rw [same] at member
    rcases List.mem_append.mp member with old | new
    · exact .inl old
    · obtain rfl := List.mem_singleton.mp new
      exact .inr ⟨Nat.le_refl _, rfl⟩
  · intro attempt member
    refine (settles.attempts attempt member).imp_right ?_
    rintro ⟨id, listed, launched⟩
    exact ⟨id, settles.roster ▸ listed, launched⟩
  · exact (budget_congr settles.roster).trans rfl
  · rw [same]
    simp [Roster.ids]
  · refine ⟨{scales.job (queue.newJob name context moment.stamp)}, ?_, ?_⟩
    · intro burden member
      obtain rfl := Multiset.mem_singleton.mp member
      exact ⟨queue.issued, Nat.le_refl _, rfl⟩
    · convert settles.sheds using 1
      simp only [Scales.load, lined, List.map_append, List.map_singleton, ← Multiset.coe_add,
        Multiset.coe_singleton]
      abel

/-- By induction on the workflows that are looked at. -/
theorem enqueueFitting_creates (fits : Definition → Except Failure Bool) (context : Context)
    (workflows : List (String × Definition)) (sound : Sound scene.1) :
    Creates scales context scene
      (enqueueFitting moment.around fits context workflows scene).2 := by
  induction workflows generalizing scene with
  | nil => exact .refl sound
  | cons entry rest ih =>
      unfold enqueueFitting
      split
      · exact .refl sound
      · exact ih sound
      · have first : Creates scales context scene
            (enqueue moment.around entry.2.name context scene).2 :=
          enqueue_creates sound entry.2.name context
        split
        next failure last refused =>
          rw [refused] at first
          exact first
        next id last made =>
          rw [made] at first
          exact first.trans (ih first.sound)

theorem enqueueValue_creates (sound : Sound scene.1) (name : Value) (context : Context) :
    Creates scales context scene (enqueueValue moment.around name context scene).2 := by
  unfold enqueueValue
  split
  · exact enqueue_creates sound _ context
  · split <;> exact .refl sound

/-- What a change starts has an admitted depth. -/
theorem startOnChange_creates (moment : Moment Time) (sound : Sound scene.1) (maxDepth : Value) (change : Change)
    (cascade : Option CascadeInfo) :
    (startOnChange moment.around maxDepth change cascade scene).2 = scene ∨
      ∃ context, admittedDepth maxDepth cascade = .ok context.cascade.depth ∧
        ∀ scales : Scales, Creates scales context scene
          (startOnChange moment.around maxDepth change cascade scene).2 := by
  unfold startOnChange
  split
  · exact .inl rfl
  next depth admitted =>
    exact .inr ⟨change.context _ depth, admitted, fun _ => enqueueFitting_creates _ _ _ sound⟩

theorem startOnReport_snd (maxDepth : Value) (news : EntityReport) :
    (startOnReport moment.around maxDepth news scene).2 =
      (startOnChange moment.around maxDepth
        { entity := .str news.entity, event := .str news.event.name, before := news.before,
          after := news.after } (some ⟨news.sourceWorkflow, news.depth⟩) scene).2 := by
  unfold startOnReport
  dsimp only
  split
  next deep => rw [deep]
  · rfl

/-- A report makes jobs that fewer runs may follow than the run that made it. -/
theorem startOnReport_creates (moment : Moment Time) (maxDepth : Int) {news : EntityReport}
    (sound : Sound scene.1) (exact : news.depth.Exact) :
    ∃ context : Context, context.cascade.depth.Exact ∧
      Extends context scene (startOnReport moment.around (.int maxDepth) news scene).2 ∧
      (startOnReport moment.around (.int maxDepth) news scene).2.1.budget = scene.1.budget ∧
      ∀ scales : Scales,
        (∀ id, scene.1.issued ≤ id → scales.hops id = hops maxDepth context.cascade.depth) →
        ∃ made : Multiset Burden, (∀ burden ∈ made, burden.hops < hops maxDepth news.depth) ∧
          Sheds (scales.load (startOnReport moment.around (.int maxDepth) news scene).2)
            (scales.load scene + made) := by
  rw [startOnReport_snd]
  rcases startOnChange_creates moment sound (.int maxDepth) _
    (some ⟨news.sourceWorkflow, news.depth⟩) with same | ⟨context, admitted, creates⟩
  · rw [same]
    exact ⟨{}, Value.exact_int 0, .refl sound, rfl,
      fun scales _ => ⟨0, by simp, by rw [add_zero]⟩⟩
  · obtain ⟨deeper, fewer⟩ := admittedDepth_ok exact admitted
    have plain := creates (Scales.plain scene.1)
    refine ⟨context, deeper, plain.toExtends, plain.budget, fun scales fresh => ?_⟩
    obtain ⟨made, own, sheds⟩ := (creates scales).sheds
    refine ⟨made, fun burden member => ?_, sheds⟩
    obtain ⟨id, issued, same⟩ := own burden member
    rw [same, fresh id issued]
    exact fewer

end Making

section Asking

variable {moment : Moment Time} {scene : Scene Time (List Attempt)}

theorem register_extends {context : Context} (workflow : Definition)
    (after : Sound (register moment.around workflow scene).2.1) (sound : Sound scene.1) :
    Extends context scene (register moment.around workflow scene).2 := by
  revert after
  unfold register
  split
  · exact fun _ => .refl sound
  · exact fun after => .of_sublist after rfl (List.Sublist.refl _) rfl

theorem cancel_keeps (id : JobId) : Keeps scene (cancel moment.around id scene).2 := by
  unfold cancel
  split
  · exact .of_roster rfl
  · split
    · rw [tell_around]
      exact .of_roster (roster_edit _ (fun _ => rfl) fun _ => rfl)
    · dsimp only
      rw [tell_around]
      have same : (scene.1.edit id (callOff moment.stamp)).roster = scene.1.roster :=
        roster_edit _ (fun _ => rfl) fun _ => rfl
      exact ⟨same, fun _ member => .inl member⟩
    all_goals exact .of_roster rfl

theorem retry_keeps (distinct : Distinct scene.1) (id : JobId) :
    Keeps scene (retry moment.around id scene).2 := by
  obtain ⟨queue, state⟩ := scene
  unfold retry
  split
  · exact .of_roster rfl
  · split
    · exact .of_roster rfl
    · split
      · exact .of_roster rfl
      · dsimp only
        rw [tell_around]
        have same : ((queue.edit id Job.renew).append id).roster = queue.roster :=
          roster_append.trans (roster_edit _ (fun _ => rfl) fun _ => rfl)
        have renewed : Keeps (queue, state) ((queue.edit id Job.renew).append id, state) :=
          .of_roster same
        have distinct : Distinct ((queue.edit id Job.renew).append id) := by rwa [Distinct, same]
        exact renewed.trans (admitAll_settles distinct : Settles (Scales.plain queue) _ _).toKeeps

theorem wake_keeps (distinct : Distinct scene.1) (id : JobId) :
    Keeps scene (wake moment.around id scene) := by
  by_cases armed : scene.1.delayed.any (·.1 == id)
  · exact (wake_lightens (Scales.plain scene.1) distinct armed).1
  · have idle : wake moment.around id scene = scene := if_neg armed
    rw [idle]
    exact .of_roster rfl

theorem cleanup_extends {context : Context} (age : Value)
    (after : Sound (cleanup moment.around age scene).2.1) (sound : Sound scene.1) :
    Extends context scene (cleanup moment.around age scene).2 := by
  revert after
  unfold cleanup
  split
  · exact fun _ => .refl sound
  · split
    · exact fun _ => .refl sound
    · simp only [dropStale]
      split
      · exact fun after => .of_sublist after rfl List.filter_sublist rfl
      · exact fun after => .of_sublist after rfl List.filter_sublist rfl

/-- A use of the queue that puts nothing into the line makes no job. -/
theorem apply_extends {context : Context} (sound : Sound scene.1) (operation : Operation)
    (other : ∀ name context, operation ≠ .enqueue name context) :
    Extends context scene (operation.apply moment.around scene) := by
  obtain ⟨queue, state⟩ := scene
  have after : Sound (operation.apply moment.around (queue, state)).1 := sound.apply around_quiet
  cases operation with
  | enqueue name context => exact (other name context rfl).elim
  | complete id result =>
      have settles : Settles (Scales.plain queue) (queue, state)
          (complete moment.around id result (queue, state)) :=
        complete_settles sound.distinct result
      exact settles.toKeeps.extends after
  | fail id error =>
      have settles : Settles (Scales.plain queue) (queue, state)
          (fail moment.around id error (queue, state)).2 :=
        fail_settles sound.distinct rfl error
      exact settles.toKeeps.extends after
  | wake id => exact (wake_keeps sound.distinct id).extends after
  | cancel id => exact (cancel_keeps id).extends after
  | retry id => exact (retry_keeps sound.distinct id).extends after
  | stop => exact .of_sublist after rfl (List.Sublist.refl _) rfl
  | register workflow => exact register_extends workflow after sound
  | registerValue data =>
      revert after
      simp only [Operation.apply, registerValue]
      split
      · split
        · exact fun after => register_extends _ after sound
        · exact fun _ => .refl sound
      · exact fun _ => .refl sound
  | unregister name =>
      revert after
      simp only [Operation.apply, unregister]
      split
      · exact fun _ => .refl sound
      · exact fun after => .of_sublist after rfl (List.Sublist.refl _) rfl
  | cleanup age => exact cleanup_extends age after sound

/-- What is asked for from outside makes jobs of one exact depth at most. -/
theorem perform_extends (moment : Moment Time) (sound : Sound scene.1) (maxDepth : Int)
    (request : Request) (exact : request.Exact) :
    ∃ context : Context, context.cascade.depth.Exact ∧
      Extends context scene (request.perform moment.around maxDepth scene) := by
  have grown : ∀ {context : Context} {after : Scene Time (List Attempt)},
      Creates (Scales.plain scene.1) context scene after → Extends context scene after :=
    fun creates => creates.toExtends
  cases request with
  | use operation =>
      by_cases lines : ∃ name context, operation = .enqueue name context
      · obtain ⟨name, context, rfl⟩ := lines
        exact ⟨context, exact, grown (enqueueValue_creates sound name context)⟩
      · refine ⟨{}, Value.exact_int 0, apply_extends sound operation fun name context same => ?_⟩
        exact lines ⟨name, context, same⟩
  | start name data =>
      exact ⟨manualContext data, Value.exact_int 0, grown (enqueueValue_creates sound name _)⟩
  | change news cascade =>
      rcases startOnChange_creates moment sound (.int maxDepth) news cascade with
        same | ⟨context, admitted, creates⟩
      · refine ⟨{}, Value.exact_int 0, ?_⟩
        rw [Request.perform, same]
        exact .refl sound
      · refine ⟨context, admittedDepth_exact ?_ admitted, grown (creates _)⟩
        rintro info rfl
        exact exact
  | deliver delivery =>
      exact ⟨delivery.context, Value.exact_int 0, grown (enqueueFitting_creates _ _ _ sound)⟩
  | schedule expression =>
      exact ⟨scheduleContext moment.stamp, Value.exact_int 0,
        grown (enqueueFitting_creates _ _ _ sound)⟩

end Asking

end Orchestra
