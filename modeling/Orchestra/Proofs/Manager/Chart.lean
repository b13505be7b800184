import Orchestra.Proofs.Execution.Frame
import Orchestra.Proofs.Manager.Creation

/-!
Where the jobs of a manager stand in their cascades.

Every job keeps the depth that it was made with. A chart gives the depth of each job; its record and
its attempts hold to it, through answers and reports, loops and repetitions.
-/

namespace Orchestra

open Queue Routing Execution

variable {Time : Type}

/-- Whatever the answers are, a run and its reports stay at one depth of the cascade. -/
def Running.StaysAt (depth : Value) (rest : Running) : Prop :=
  rest.Always
    (fun question : Question => question.context.cascade.depth = depth ∧
      ∀ news, question.call = .report news → news.depth = depth)
    fun result => result.2.cascade.depth = depth

theorem Running.StaysAt.held {depth : Value} {rest : Running} (stays : rest.StaysAt depth) :
    rest.held.cascade.depth = depth := by
  cases rest with
  | done result => exact stays
  | ask question next => exact stays.1.1

theorem runWorkflow_staysAt (collaborators : Collaborators) (workflow : Definition)
    (context : Context) :
    Running.StaysAt context.cascade.depth (runWorkflow collaborators workflow context) := by
  have depth : ∀ other : Context, other.frame = (context.startedBy workflow.name).frame →
      other.cascade.depth = context.cascade.depth := by
    intro other same
    have kept : other.frame.cascade.depth = (context.startedBy workflow.name).frame.cascade.depth :=
      congrArg (fun frame : Context => frame.cascade.depth) same
    exact kept.trans (startedBy_depth context workflow.name)
  refine (runWorkflow_frame collaborators workflow context).mono ?_ fun result => depth result.2
  intro question fits
  exact ⟨depth _ fits.same, fun news same =>
    (fits.report news same).depth.trans (startedBy_depth context workflow.name)⟩

namespace Manager

/-- A job has a record, also when the queue has dropped it. -/
def Knows (manager : Manager Time) (id : JobId) : Prop :=
  id ∈ manager.queue.roster.ids ∨ id ∈ manager.dropped.map Job.id

/-- Every job stands at the depth that a chart gives for it, in its record and in its attempts. -/
structure Charted (chart : JobId → Value) (manager : Manager Time) : Prop where
  sound : Sound manager.queue
  exact : ∀ id, (chart id).Exact
  contexts : ∀ entry ∈ manager.queue.roster.contexts, entry.2.cascade.depth = chart entry.1
  dropped : ∀ job ∈ manager.dropped, job.id < manager.queue.issued ∧
    job.context.cascade.depth = chart job.id
  known : ∀ attempt ∈ manager.attempts, manager.Knows attempt.job
  depths : ∀ id rest, .underway id rest ∈ manager.attempts → rest.StaysAt (chart id)

/-- The chart with the depth of the jobs that are new. -/
def extended (chart : JobId → Value) (issued : Nat) (depth : Value) (id : JobId) : Value :=
  if id < issued then chart id else depth

section Chart

variable {chart : JobId → Value} {manager : Manager Time} {queue : Queue Time}
  {dropped : List Job} {first last : List Attempt} {attempt : Attempt} {id : JobId} {rest : Running}

theorem job?_isSome_iff (queue : Queue Time) :
    (queue.job? id).isSome ↔ id ∈ queue.roster.ids := by
  simp [ids_roster, Queue.job?, List.find?_isSome]

theorem knows_iff : manager.Knows id ↔ ∃ job, manager.job? id = some job := by
  rw [← Option.isSome_iff_exists, Manager.job?, Option.isSome_or, Bool.or_eq_true, job?_isSome_iff]
  simp [Knows, List.find?_isSome]

theorem Charted.issued_of_knows (charted : Charted chart manager) (known : manager.Knows id) :
    id < manager.queue.issued := by
  rcases known with listed | gone
  · exact charted.sound.issued_of_ids listed
  · obtain ⟨job, member, rfl⟩ := List.mem_map.mp gone
    exact (charted.dropped job member).1

theorem Charted.issued (charted : Charted chart manager) (member : attempt ∈ manager.attempts) :
    attempt.job < manager.queue.issued :=
  charted.issued_of_knows (charted.known attempt member)

theorem charted_fresh (config : QueueConfig) :
    Charted (fun _ => .int 0) (fresh config : Manager Time) where
  sound := sound_empty config
  exact _ := Value.exact_int 0
  contexts _ member := nomatch member
  dropped _ member := nomatch member
  known _ member := nomatch member
  depths _ _ member := nomatch member

/-- An attempt is taken out. -/
theorem Charted.without (charted : Charted chart ⟨queue, dropped, first ++ attempt :: last⟩) :
    Charted chart (⟨queue, dropped, first ++ last⟩ : Manager Time) := by
  have old : ∀ other ∈ first ++ last, other ∈ first ++ attempt :: last := by
    intro other member
    simp only [List.mem_append, List.mem_cons] at member ⊢
    exact member.imp_right .inr
  exact ⟨charted.sound, charted.exact, charted.contexts, charted.dropped,
    fun other member => charted.known other (old other member),
    fun id rest member => charted.depths id rest (old _ member)⟩

/-- The record of a job that is found has the depth of the chart. -/
theorem Charted.depth_of_found (charted : Charted chart manager) {job : Job}
    (found : manager.job? id = some job) : job.context.cascade.depth = chart id := by
  rcases Option.or_eq_some_iff.mp found with listed | ⟨-, gone⟩
  · have member : (job.id, job.context) ∈ manager.queue.roster.contexts :=
      List.mem_map_of_mem (List.mem_of_find?_eq_some listed)
    exact job?_id listed ▸ charted.contexts _ member
  · have own : job.id = id := by simpa using List.find?_some gone
    exact own ▸ (charted.dropped job (List.mem_of_find?_eq_some gone)).2

/-- A change of a context leaves every job where it stands. -/
theorem sound_putContext (sound : Sound queue) (id : JobId) (context : Context) :
    Sound (queue.edit id fun job => { job with context }) := by
  have own : KeepsId fun job => { job with context } := fun _ => rfl
  have kept : ∀ other standing, queue.Stands other standing →
      (queue.edit id fun job => { job with context }).Stands other (if other = id then
        standing.map fun (job, place) => ({ job with context }, place) else standing) := by
    intro other standing stands
    by_cases same : other = id
    · subst same
      rw [if_pos rfl]
      constructor
      · rw [card_edit_self _ own, stands.card]
        rcases standing with _ | ⟨job, _ | _ | _ | _⟩ <;> rfl
      · rcases standing with _ | ⟨job, place⟩
        · trivial
        · exact stands.fits
    · rw [if_neg same]
      exact ⟨(card_edit_other _ own same).trans stands.card, stands.fits⟩
  constructor
  · intro other
    obtain ⟨standing, stands⟩ := sound.stands other
    exact ⟨_, kept other standing stands⟩
  · intro other unissued
    have stands := kept other none (sound.unissued other unissued)
    rwa [Option.map_none, ite_self] at stands

/-- Writing a context back leaves the records where they are. -/
theorem Knows.carryOn {other : JobId} (known : manager.Knows other) :
    (manager.carryOn id rest).Knows other := by
  refine known.imp (fun listed => ?_) fun gone => ?_
  · rw [ids_roster] at listed ⊢
    obtain ⟨job, member, rfl⟩ := List.mem_map.mp listed
    refine List.mem_map.mpr ⟨_, List.mem_map_of_mem member, ?_⟩
    split <;> rfl
  · obtain ⟨job, member, rfl⟩ := List.mem_map.mp gone
    refine List.mem_map.mpr ⟨_, List.mem_map_of_mem member, ?_⟩
    split <;> rfl

/-- An attempt goes on: its run stays at the depth of its job. -/
theorem Charted.carryOn (charted : Charted chart manager) (known : manager.Knows id)
    (stays : rest.StaysAt (chart id)) : Charted chart (manager.carryOn id rest) where
  sound := sound_putContext charted.sound id _
  exact := charted.exact
  contexts entry member := by
    obtain ⟨job, edited, rfl⟩ := List.mem_map.mp member
    obtain ⟨old, listed, rfl⟩ := List.mem_map.mp edited
    have entered : (old.id, old.context) ∈ manager.queue.roster.contexts :=
      List.mem_map_of_mem listed
    have before := charted.contexts _ entered
    by_cases own : old.id = id
    · simpa [own] using stays.held
    · simpa [own] using before
  dropped job member := by
    obtain ⟨old, listed, rfl⟩ := List.mem_map.mp member
    have before := charted.dropped old listed
    by_cases own : old.id = id
    · simpa [own, Manager.carryOn, putContext, edit] using
        And.intro (charted.issued_of_knows known) stays.held
    · simpa [own, Manager.carryOn, putContext, edit] using before
  known attempt member := by
    rcases List.mem_append.mp member with old | new
    · exact (charted.known attempt old).carryOn
    · obtain rfl := List.mem_singleton.mp new
      exact known.carryOn
  depths other remaining member := by
    rcases List.mem_append.mp member with old | new
    · exact charted.depths other remaining old
    · cases List.mem_singleton.mp new
      exact stays

theorem extended_of_lt {issued : Nat} {depth : Value} (old : id < issued) :
    extended chart issued depth id = chart id :=
  if_pos old

/-- The record of a job stays, or it is kept aside when the queue drops it. -/
theorem Knows.used {queue : Queue Time} {attempts : List Attempt} (known : manager.Knows id) :
    Knows ⟨queue, manager.dropped ++ missing manager.queue queue, attempts⟩ id := by
  rcases known with listed | gone
  · by_cases kept : id ∈ queue.roster.ids
    · exact .inl kept
    · rw [ids_roster] at listed
      obtain ⟨job, member, rfl⟩ := List.mem_map.mp listed
      have lost : (queue.job? job.id).isNone := by simpa [← job?_isSome_iff] using kept
      exact .inr (List.mem_map_of_mem (List.mem_append_right _ (List.mem_filter.mpr ⟨member, lost⟩)))
  · rw [Knows, List.map_append]
    exact .inr (List.mem_append_left _ gone)

/-- Jobs that are made are entered into the chart. -/
theorem Charted.used (charted : Charted chart manager) {context : Context}
    {after : Scene Time (List Attempt)} (exact : context.cascade.depth.Exact)
    (grown : Extends context (manager.queue, manager.attempts) after) :
    Charted (extended chart manager.queue.issued context.cascade.depth)
      ⟨after.1, manager.dropped ++ missing manager.queue after.1, after.2⟩ where
  sound := grown.sound
  exact other := by
    unfold extended
    split
    · exact charted.exact other
    · exact exact
  contexts entry member := by
    rcases grown.contexts entry member with old | ⟨new, same⟩
    · have issued := charted.sound.issued_of_ids (List.mem_map_of_mem old)
      rw [extended_of_lt issued]
      exact charted.contexts entry old
    · rw [same, extended, if_neg (Nat.not_lt.mpr new)]
  dropped job member := by
    have before : job.id < manager.queue.issued ∧ job.context.cascade.depth = chart job.id := by
      rcases List.mem_append.mp member with old | lost
      · exact charted.dropped job old
      · have listed : (job.id, job.context) ∈ manager.queue.roster.contexts :=
          List.mem_map_of_mem (List.mem_filter.mp lost).1
        exact ⟨charted.sound.issued_of_ids (List.mem_map_of_mem listed),
          charted.contexts _ listed⟩
    exact ⟨Nat.lt_of_lt_of_le before.1 grown.issued, (extended_of_lt before.1).symm ▸ before.2⟩
  known attempt member := by
    rcases grown.attempts attempt member with old | ⟨id, listed, workflow, rfl⟩
    · exact (charted.known attempt old).used
    · exact .inl listed
  depths other remaining member := by
    rcases grown.attempts _ member with old | ⟨id, -, workflow, same⟩
    · have issued : other < manager.queue.issued := charted.issued old
      rw [extended_of_lt issued]
      exact charted.depths other remaining old
    · cases same

end Chart

end Manager

end Orchestra
