import Mathlib.Tactic.Abel
import Orchestra.Proofs.Manager.Burden
import Orchestra.Proofs.Queue.Passage

/-!
What admissions, outcomes and delays do to the burdens of a queue.

They make no jobs. A job that is started becomes lighter, and so does one that waits for its next
attempt after a failure, since that one counts against its budget.
-/

namespace Orchestra

variable {Time : Type}

/-- What is left alone by attempts and their outcomes: the settings, and the contexts of jobs. -/
structure Roster where
  config : QueueConfig
  workflows : List (String × Definition)
  issued : Nat
  contexts : List (JobId × Context)

def Roster.ids (roster : Roster) : List JobId :=
  roster.contexts.map Prod.fst

namespace Queue

def roster (queue : Queue Time) : Roster :=
  ⟨queue.config, queue.workflows, queue.issued, queue.jobs.map fun job => (job.id, job.context)⟩

/-- No two records have one number. -/
def Distinct (queue : Queue Time) : Prop :=
  queue.roster.ids.Nodup

section Roster

variable {queue next : Queue Time} {id : JobId}

theorem roster_occupy : (queue.occupy id).roster = queue.roster := rfl

theorem roster_append : (queue.append id).roster = queue.roster := rfl

theorem roster_edit (change : Job → Job) (own : KeepsId change)
    (context : ∀ job, (change job).context = job.context) :
    (queue.edit id change).roster = queue.roster := by
  have contexts : (queue.edit id change).jobs.map (fun job => (job.id, job.context)) =
      queue.jobs.map fun job => (job.id, job.context) := by
    simp only [edit, List.map_map]
    apply List.map_congr_left
    intro job _
    simp only [Function.comp]
    split
    · rw [own job, context job]
    · rfl
  simp only [roster, contexts]
  rfl

theorem ids_roster (queue : Queue Time) : queue.roster.ids = queue.jobs.map Job.id := by
  simp [roster, Roster.ids, Function.comp_def]

theorem budget_congr (same : next.roster = queue.roster) : next.budget = queue.budget := by
  have config : next.config = queue.config := congrArg Roster.config same
  have workflows : next.workflows = queue.workflows := congrArg Roster.workflows same
  funext name
  simp only [budget, workflow?, config, workflows]

theorem Sound.distinct (sound : Sound queue) : Distinct queue := by
  rw [Distinct, ids_roster, List.nodup_iff_count_le_one]
  intro id
  obtain ⟨standing, stands⟩ := sound.stands id
  have records : (queue.jobs.filter fun job => job.id == id).length ≤ 1 := by
    rw [show queue.jobs.filter (fun job => job.id == id) = _ from congrArg Card.records stands.card]
    rcases standing with _ | ⟨job, _ | _ | _ | _⟩ <;> simp [Card.ofStanding]
  rwa [List.count, List.countP_map, List.countP_eq_length_filter]

theorem Sound.issued_of_ids (sound : Sound queue) (member : id ∈ queue.roster.ids) :
    id < queue.issued := by
  rw [ids_roster] at member
  obtain ⟨job, listed, rfl⟩ := List.mem_map.mp member
  by_contra later
  have card := (sound.unissued job.id (Nat.not_lt.mp later)).card
  have recorded : job ∈ (queue.card job.id).records := List.mem_filter.mpr ⟨listed, by simp⟩
  simp [card, Card.ofStanding] at recorded

theorem Moves.sound {σ : Type} {around : Surroundings Time σ} {operation : Operation}
    {before after : Scene Time σ} (moves : Moves around operation before after)
    (sound : Sound before.1) : Sound after.1 :=
  moves.preserves (fun scene => Sound scene.1) (fun _ move sound => sound.move move) sound

theorem edit_edit (first second : Job → Job) (own : KeepsId first) :
    (queue.edit id first).edit id second = queue.edit id (second ∘ first) := by
  simp only [edit, List.map_map]
  congr 1
  apply List.map_congr_left
  intro job _
  by_cases same : job.id = id <;> simp [same, own job]

end Roster

end Queue

open Queue

namespace Scales

variable {scales : Scales} {queue next : Queue Time} {id : JobId} {job : Job}
  {state : List Attempt}

/-- The burdens of all jobs but one stay. -/
theorem map_edit (scales : Scales) (change : Job → Job) (distinct : Distinct queue) (listed : queue.job? id = some job) :
    ∃ others : Multiset Burden,
      (queue.jobs.map scales.job : Multiset Burden) = others + {scales.job job} ∧
        ((queue.edit id change).jobs.map scales.job : Multiset Burden) =
          others + {scales.job (change job)} := by
  obtain ⟨own, first, last, split, before⟩ := List.find?_eq_some_iff_append.mp listed
  have own : job.id = id := by simpa using own
  rw [Distinct, ids_roster, split, List.map_append, List.map_cons, own] at distinct
  have after : ∀ other ∈ last, other.id ≠ id := by
    intro other member same
    have distinct := (List.nodup_cons.mp (List.nodup_append.mp distinct).2.1).1
    exact distinct (same ▸ List.mem_map_of_mem member)
  have kept : ∀ jobs : List Job, (∀ other ∈ jobs, other.id ≠ id) →
      jobs.map (fun job => if job.id == id then change job else job) = jobs := by
    intro jobs others
    refine (List.map_congr_left fun other member => ?_).trans (List.map_id jobs)
    simp [others other member]
  have before : ∀ other ∈ first, other.id ≠ id := by simpa using before
  refine ⟨((first ++ last).map scales.job : List Burden), ?_, ?_⟩
  · simp only [split, List.map_append, List.map_cons, ← Multiset.coe_add, ← Multiset.cons_coe,
      ← Multiset.singleton_add]
    abel
  · simp only [edit, split, List.map_append, List.map_cons, kept first before, kept last after, own,
      beq_self_eq_true, if_true, ← Multiset.coe_add, ← Multiset.cons_coe,
      ← Multiset.singleton_add]
    abel

/-- A job that weighs less makes up for a launched attempt of it and for a delay. -/
theorem load_edit_lightens (change : Job → Job) (launched : List Attempt)
    (distinct : Distinct queue) (listed : queue.job? id = some job)
    (jobs : next.jobs = (queue.edit id change).jobs) (alarms : Nat)
    (delays : next.delayed.length = queue.delayed.length + alarms)
    (own : ∀ attempt ∈ launched, ∃ workflow, attempt = .launched id workflow)
    (keeps : (change job).id = job.id) (less : scales.left (change job) < scales.left job) :
    Lightens (scales.load (next, state ++ launched)) (scales.load (queue, state)) := by
  obtain ⟨others, before, after⟩ := map_edit scales change distinct listed
  have lighter : ∀ other ∈ {scales.job (change job)} +
      Multiset.replicate alarms Burden.alarm + (launched.map scales.attempt : Multiset Burden),
      other.Lighter (scales.job job) := by
    intro other member
    simp only [Multiset.mem_add, Multiset.mem_singleton, Multiset.mem_coe, List.mem_map] at member
    rcases member with (rfl | alarm) | ⟨attempt, member, rfl⟩
    · exact Burden.lighter_of_weight (congrArg scales.hops keeps) (Nat.add_lt_add_left less 3)
    · obtain rfl := Multiset.eq_of_mem_replicate alarm
      exact Burden.alarm_lighter (Nat.add_pos_left (Nat.succ_pos 2) _)
    · obtain ⟨workflow, rfl⟩ := own attempt member
      exact Burden.lighter_of_weight (congrArg scales.hops (job?_id listed).symm)
        (Nat.lt_add_right _ (Nat.lt_succ_self 2))
  have replaced := lightens_replace
    (others + Multiset.replicate queue.delayed.length Burden.alarm + state.map scales.attempt)
    lighter
  simp only [load, jobs, before, after, delays, List.map_append, ← Multiset.coe_add,
    Multiset.replicate_add]
  convert replaced using 1 <;> abel

theorem load_edit_same (change : Job → Job) (same : ∀ job, scales.job (change job) = scales.job job)
    (jobs : next.jobs = (queue.edit id change).jobs)
    (delays : next.delayed.length = queue.delayed.length) :
    scales.load (next, state) = scales.load (queue, state) := by
  have kept : (queue.edit id change).jobs.map scales.job = queue.jobs.map scales.job := by
    simp only [edit, List.map_map]
    apply List.map_congr_left
    intro job _
    simp only [Function.comp]
    split
    · exact same job
    · rfl
  simp only [load, jobs, kept, delays]

end Scales

/-- An operation keeps the roster, and it launches attempts of jobs in it only. -/
structure Keeps (before after : Scene Time (List Attempt)) : Prop where
  roster : after.1.roster = before.1.roster
  attempts : ∀ attempt ∈ after.2, attempt ∈ before.2 ∨
    ∃ id ∈ before.1.roster.ids, ∃ workflow, attempt = .launched id workflow

/-- An operation that moreover adds nothing to the burdens. -/
structure Settles (scales : Scales) (before after : Scene Time (List Attempt)) : Prop
    extends Keeps before after where
  sheds : Sheds (scales.load after) (scales.load before)

section Settles

variable {scales : Scales} {queue next : Queue Time} {state : List Attempt}
  {first second third : Scene Time (List Attempt)} {id : JobId} {job : Job}

theorem Keeps.trans (before : Keeps first second) (after : Keeps second third) :
    Keeps first third where
  roster := after.roster.trans before.roster
  attempts attempt member := by
    rcases after.attempts attempt member with old | launched
    · exact before.attempts attempt old
    · exact .inr (before.roster ▸ launched)

/-- A change of the queue alone that keeps the roster. -/
theorem Keeps.of_roster (same : next.roster = queue.roster) : Keeps (queue, state) (next, state) :=
  ⟨same, fun _ member => .inl member⟩

theorem Settles.refl (scene : Scene Time (List Attempt)) : Settles scales scene scene :=
  ⟨.of_roster rfl, .refl⟩

theorem Settles.trans (before : Settles scales first second) (after : Settles scales second third) :
    Settles scales first third :=
  ⟨before.toKeeps.trans after.toKeeps, after.sheds.trans before.sheds⟩

theorem Settles.distinct (settles : Settles scales first second) (distinct : Distinct first.1) :
    Distinct second.1 := by
  rw [Distinct, settles.roster]
  exact distinct

/-- The record of a job changes, and it weighs less. -/
theorem Settles.edit (change : Job → Job) (distinct : Distinct queue) (listed : queue.job? id = some job)
    (own : KeepsId change) (less : scales.left (change job) < scales.left job)
    (same : next.roster = queue.roster) (jobs : next.jobs = (queue.edit id change).jobs)
    (alarms : Nat) (delays : next.delayed.length = queue.delayed.length + alarms) :
    Settles scales (queue, state) (next, state) where
  toKeeps := .of_roster same
  sheds := by
    have lightens : Lightens (scales.load (next, state ++ [])) (scales.load (queue, state)) :=
      Scales.load_edit_lightens change [] distinct listed jobs alarms delays (by simp) (own job) less
    rw [List.append_nil] at lightens
    exact lightens.to_reflTransGen

/-- The record of a job changes, and it weighs as much as before. -/
theorem Settles.same (change : Job → Job) (same : ∀ job, scales.job (change job) = scales.job job)
    (roster : next.roster = queue.roster) (jobs : next.jobs = (queue.edit id change).jobs)
    (delays : next.delayed.length = queue.delayed.length) :
    Settles scales (queue, state) (next, state) where
  toKeeps := .of_roster roster
  sheds := by rw [Scales.load_edit_same change same jobs delays]

end Settles

section Admission

variable {scales : Scales} {moment : Moment Time} {queue : Queue Time} {state : List Attempt}
  {id : JobId} {job : Job}

@[simp] theorem tell_around (event : Job → Event) (scene : Scene Time (List Attempt)) :
    scene.tell moment.around event id = scene := by
  unfold Scene.tell
  split <;> rfl

theorem around_quiet : moment.around.Quiet :=
  fun _ _ _ => rfl

theorem refuse_settles (distinct : Distinct queue) (listed : queue.job? id = some job)
    (waiting : job.status = .pending) (error : String) :
    Settles scales (queue, state) (refuse moment.around id error (queue, state)) := by
  rw [refuse, tell_around]
  refine .edit (·.refuse error moment.stamp) distinct listed (fun _ => rfl) ?_
    (roster_edit _ (fun _ => rfl) fun _ => rfl) rfl 0 rfl
  simp only [Scales.left, Job.refuse, waiting]
  omega

theorem start_settles (distinct : Distinct queue) (listed : queue.job? id = some job)
    (waiting : job.status = .pending) (workflow : Definition) :
    Settles scales (queue, state) (start moment.around id workflow (queue, state)) := by
  have less : scales.left (job.start moment.stamp) < scales.left job := by
    simp only [Scales.left, Job.start, waiting]
    omega
  have roster : ((queue.edit id (·.start moment.stamp)).occupy id).roster = queue.roster :=
    roster_occupy.trans (roster_edit _ (fun _ => rfl) fun _ => rfl)
  have member : id ∈ queue.roster.ids := by
    rw [ids_roster, ← job?_id listed]
    exact List.mem_map_of_mem (List.mem_of_find?_eq_some listed)
  simp only [start, tell_around, Scene.edit]
  refine ⟨⟨roster, ?_⟩, (Scales.load_edit_lightens (·.start moment.stamp) [.launched id workflow]
    distinct listed rfl 0 rfl (by simp) rfl less).to_reflTransGen⟩
  intro attempt launched
  rcases List.mem_append.mp launched with old | new
  · exact .inl old
  · exact .inr ⟨id, member, workflow, by simpa using new⟩

theorem admitJob_settles (distinct : Distinct queue) :
    Settles scales (queue, state) (admitJob moment.around id (queue, state)) := by
  unfold admitJob
  split
  next => exact .refl _
  next job listed =>
    split
    next => exact .refl _
    next waiting =>
      have waiting : job.status = .pending := by simpa using waiting
      split
      next => exact refuse_settles distinct listed waiting _
      next workflow known =>
        split
        · exact refuse_settles distinct listed waiting _
        · exact start_settles distinct listed waiting workflow

theorem admitUpTo_settles (limit : Nat) (scene : Scene Time (List Attempt))
    (distinct : Distinct scene.1) :
    Settles scales scene (admitUpTo moment.around limit scene) := by
  induction limit generalizing scene with
  | zero => exact .refl scene
  | succ limit ih =>
      unfold admitUpTo
      split
      next => exact .refl scene
      next id rest line =>
        split
        next => exact .refl scene
        next =>
          have taken : Settles scales scene (scene.edit fun queue => { queue with pending := rest }) :=
            ⟨.of_roster rfl, .refl⟩
          have admitted : Settles scales _ (admitJob moment.around id (_, scene.2)) :=
            admitJob_settles (taken.distinct distinct)
          exact (taken.trans admitted).trans (ih _ ((taken.trans admitted).distinct distinct))

/-- Admission makes no job: it starts attempts of those in line. -/
theorem admitAll_settles {scene : Scene Time (List Attempt)} (distinct : Distinct scene.1) :
    Settles scales scene (admitAll moment.around scene) :=
  admitUpTo_settles _ scene distinct

/-- What leads to an admission. -/
theorem Settles.admit {scene last : Scene Time (List Attempt)} (settles : Settles scales scene last)
    (distinct : Distinct scene.1) : Settles scales scene (admitAll moment.around last) :=
  settles.trans (admitAll_settles (settles.distinct distinct))

end Admission

section Outcome

variable {scales : Scales} {moment : Moment Time} {queue : Queue Time} {state : List Attempt}
  {id : JobId}

theorem release_settles (distinct : Distinct queue) {outcome : Scene Time (List Attempt)}
    (released : Release moment.around id queue state (none, outcome)) :
    Settles scales (queue, state) outcome := by
  cases released with
  | missing => exact .refl _
  | ignored => exact ⟨.of_roster rfl, .refl⟩
  | dropped =>
      have noted : Settles scales (queue, state)
          ((queue.vacate id).edit id (noteEnd moment.stamp), state) :=
        .same (noteEnd moment.stamp) (fun _ => rfl)
          (roster_edit _ (fun _ => rfl) fun _ => rfl) rfl rfl
      exact noted.admit distinct

theorem complete_settles (distinct : Distinct queue) (result : Value) :
    Settles scales (queue, state) (complete moment.around id result (queue, state)) := by
  have released := release_spec moment.around id queue state
  unfold complete
  split
  next outcome unaccounted => exact release_settles distinct (unaccounted ▸ released)
  next job outcome accounted =>
    rw [accounted] at released
    cases released with
    | counted listed running slot =>
        rw [tell_around]
        refine Settles.admit ?_ distinct
        refine .edit (·.succeed result moment.stamp) distinct listed (fun _ => rfl) ?_
          (roster_edit _ (fun _ => rfl) fun _ => rfl) rfl 0 rfl
        simp only [Scales.left, Job.succeed, running]
        omega

/-- A job that loses weight after its attempt has failed. -/
theorem Settles.setback {next : Queue Time} {job : Job} {error : Option String}
    (change : Job → Job) (distinct : Distinct queue) (listed : queue.job? id = some job)
    (own : KeepsId change) (context : ∀ job, (change job).context = job.context)
    (less : scales.left (change (noteError error job)) < scales.left job)
    (edited : next = { ((queue.vacate id).edit id (noteError error)).edit id change with
      delayed := next.delayed }) (alarms : Nat)
    (delays : next.delayed.length = queue.delayed.length + alarms) :
    Settles scales (queue, state) (next, state) := by
  have merged : ((queue.vacate id).edit id (noteError error)).edit id change =
      (queue.vacate id).edit id (change ∘ noteError error) := edit_edit _ _ fun _ => rfl
  rw [merged] at edited
  have roster : next.roster = ((queue.vacate id).edit id (change ∘ noteError error)).roster := by
    rw [edited]
    rfl
  exact .edit (change ∘ noteError error) distinct listed (fun job => own _) less
    (roster.trans (roster_edit _ (fun job => own _) fun job => context _)) (by rw [edited]; rfl)
    alarms delays

/-- The failure of an attempt adds no burden, since it counts against the budget of its job. -/
theorem fail_settles (distinct : Distinct queue) (budget : scales.budget = queue.budget)
    (error : Option String) :
    Settles scales (queue, state) (fail moment.around id error (queue, state)).2 := by
  have postponed : ∀ job : Job, job.status = .running →
      job.attempts < queue.budget job.workflow →
      scales.left (putOff (noteError error job)) < scales.left job := by
    intro job running left
    simp only [Scales.left, putOff, noteError, running, budget]
    omega
  have setback := fail_spec moment.around id error queue state
  generalize fail moment.around id error (queue, state) = result at setback
  cases setback with
  | dismissed released => exact release_settles distinct released
  | gaveUp listed running =>
      rw [tell_around]
      refine Settles.admit ?_ distinct
      refine .setback (·.giveUp moment.stamp) distinct listed (fun _ => rfl) (fun _ => rfl) ?_ rfl 0
        rfl
      simp only [Scales.left, Job.giveUp, noteError, running]
      omega
  | postponed listed running slot left =>
      refine Settles.admit ?_ distinct
      exact .setback putOff distinct listed (fun _ => rfl) (fun _ => rfl)
        (postponed _ running left) rfl 1 (List.length_append ..)
  | undelayable =>
      exact .same (noteError error) (fun _ => rfl)
        (roster_edit _ (fun _ => rfl) fun _ => rfl) rfl rfl
  | unminded listed running slot left =>
      exact .setback putOff distinct listed (fun _ => rfl) (fun _ => rfl)
        (postponed _ running left) rfl 0 rfl

theorem report_settles (distinct : Distinct queue) (budget : scales.budget = queue.budget)
    (outcome : Except (Option String) Value) :
    Settles scales (queue, state) (Manager.report id outcome moment.around (queue, state)) := by
  unfold Manager.report
  split
  · exact complete_settles distinct _
  · exact fail_settles distinct budget _

theorem report_moves (outcome : Except (Option String) Value) :
    ∃ operation, Moves moment.around operation (queue, state)
      (Manager.report id outcome moment.around (queue, state)) := by
  unfold Manager.report
  split
  · exact ⟨_, complete_moves around_quiet id _ _⟩
  · exact ⟨_, fail_moves around_quiet id _ _⟩

theorem report_sound (sound : Sound queue) (outcome : Except (Option String) Value) :
    Sound (Manager.report id outcome moment.around (queue, state)).1 := by
  obtain ⟨operation, moves⟩ := report_moves outcome
  exact moves.sound sound

theorem undelay_lightens (armed : queue.delayed.any (·.1 == id)) :
    Lightens (scales.load (queue.undelay id, state)) (scales.load (queue, state)) := by
  obtain ⟨entry, member, own⟩ := List.any_eq_true.mp armed
  have fewer : (queue.undelay id).delayed.length < queue.delayed.length :=
    List.length_filter_lt_length_iff_exists.mpr ⟨entry, member, by simpa using own⟩
  obtain ⟨gone, split⟩ := Nat.exists_eq_add_of_lt fewer
  have some_gone : Multiset.replicate (gone + 1) Burden.alarm ≠ 0 := by
    simp [← Multiset.card_eq_zero]
  convert lightens_drop (scales.load (queue.undelay id, state)) some_gone using 1
  simp only [Scales.load, split, Nat.add_assoc, Multiset.replicate_add]
  have jobs : (queue.undelay id).jobs = queue.jobs := rfl
  rw [jobs]
  abel

/-- A delay that is over is a burden less. -/
theorem wake_lightens (scales : Scales) (distinct : Distinct queue) (armed : queue.delayed.any (·.1 == id)) :
    Keeps (queue, state) (wake moment.around id (queue, state)) ∧
      Lightens (scales.load (wake moment.around id (queue, state)))
        (scales.load (queue, state)) := by
  have settled : Settles scales (queue.undelay id, state)
      (wake moment.around id (queue, state)) := by
    unfold wake
    rw [if_pos armed]
    dsimp only
    split
    · exact .refl _
    · split
      · exact .refl _
      · rw [tell_around]
        have appended : Settles scales (queue.undelay id, state)
            ((queue.undelay id).append id, state) := ⟨.of_roster rfl, .refl⟩
        exact appended.admit distinct
  have undelayed : Keeps (queue, state) (queue.undelay id, state) := .of_roster rfl
  exact ⟨undelayed.trans settled.toKeeps, (undelay_lightens armed).trans_right settled.sheds⟩

end Outcome

end Orchestra
