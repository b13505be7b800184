import Orchestra.Proofs.Queue.Departure

/-!
Cleaning up.

A cleanup drops the records of the jobs that came to their end long enough ago. The rest of a run
is the same as without it, whatever is later reported of these jobs: they stay at their end, and
operations on them do nothing whether they have records or not. Two things can tell the runs apart:
that a dropped job is queued again by hand, and the late outcome of a dropped job that was
cancelled, at a time when a slot is idle and a job waits. A slot is idle so only after the report of
a failed attempt has broken down.
-/

namespace Orchestra.Queue

variable {Time σ : Type}

/-- The job came to its end earlier than some seconds before now. -/
def Outdated (now : Stamp) (age : Value) (job : Job) : Prop :=
  ∃ seconds span ended, age.number? = some seconds ∧ Calendar.span seconds = .ok span ∧
    Calendar.isInCalendar (now * 1000 - span) ∧ job.status.isTerminal ∧
    job.completedAt = some ended ∧ ended * 1000 < now * 1000 - span

/-- Exactly the outdated jobs lose their records, and nothing else changes. No job in a slot is
among them. -/
structure Cleans (now : Stamp) (age : Value) (before after : Queue Time) : Prop where
  others : after = { before with jobs := after.jobs }
  order : after.jobs.Sublist before.jobs
  exactly : ∀ job ∈ before.jobs, job ∈ after.jobs ↔ ¬ Outdated now age job
  slots : ∀ job ∈ before.jobs, job.id ∈ before.running → job ∈ after.jobs

section Cleanup

variable {around : Surroundings Time σ} {age : Value} {scene : Scene Time (List (Signal Time))}

theorem cutoff_eq_ok_iff {now : Stamp} {seconds : Number} {point : Int} :
    cutoff now seconds = .ok point ↔
      ∃ span, Calendar.span seconds = .ok span ∧ Calendar.isInCalendar (now * 1000 - span) ∧
        point = now * 1000 - span := by
  unfold cutoff
  split
  next unknown => simp [unknown]
  next unknown => simp [unknown]
  next span known =>
    simp only [known, Except.ok.injEq, exists_eq_left']
    split
    next within => simp [within, eq_comm]
    next beyond => simp [beyond]

theorem isStale_iff {now : Stamp} {seconds : Number} {point : Int} {job : Job}
    (counted : age.number? = some seconds) (computed : cutoff now seconds = .ok point) :
    isStale point job ↔ Outdated now age job := by
  obtain ⟨span, known, within, rfl⟩ := cutoff_eq_ok_iff.mp computed
  simp only [isStale, Bool.and_eq_true, Option.any_eq_true, decide_eq_true_eq]
  constructor
  · rintro ⟨terminal, ended, noted, earlier⟩
    exact ⟨seconds, span, ended, counted, known, within, terminal, noted, earlier⟩
  · rintro ⟨_, _, ended, again, same, -, terminal, noted, earlier⟩
    obtain rfl := Option.some.inj (counted.symm.trans again)
    obtain rfl := Except.ok.inj (known.symm.trans same)
    exact ⟨terminal, ended, noted, earlier⟩

/-- A cleanup drops the outdated records, and none where it cannot tell which ones these are. -/
theorem cleanup_taped (around : Surroundings Time σ) (age : Value)
    (scene : Scene Time (List (Signal Time))) :
    ∃ stale : Job → Bool, (∀ job, stale job ↔ Outdated around.stamp age job) ∧
      (cleanup around.taped age scene).2 = scene.edit fun queue =>
        { queue with jobs := queue.jobs.filter fun job => !stale job } := by
  have none_stale : (scene.edit fun queue : Queue Time =>
      { queue with jobs := queue.jobs.filter fun _ => !false }) = scene := by
    have all : scene.1.jobs.filter (fun _ => !false) = scene.1.jobs := by simp
    simp only [Scene.edit, all]
  unfold cleanup
  split
  next uncounted =>
    refine ⟨fun _ => false, fun job => ?_, none_stale.symm⟩
    simp [Outdated, uncounted]
  next seconds counted =>
    split
    next failure unknown =>
      refine ⟨fun _ => false, fun job => iff_of_false (by simp) ?_, none_stale.symm⟩
      rintro ⟨_, span, -, again, known, within, -⟩
      obtain rfl := Option.some.inj (counted.symm.trans again)
      have computed := cutoff_eq_ok_iff.mpr ⟨span, known, within, rfl⟩
      cases unknown.symm.trans computed
    next point computed =>
      exact ⟨isStale point, fun job => isStale_iff counted computed, dropStale_taped point scene⟩

/-- Only jobs that came to their end are outdated, so none of them holds a slot. -/
theorem cleanup_cleans (around : Surroundings Time σ) (age : Value) (sound : Sound scene.1) :
    Cleans around.stamp age scene.1 (cleanup around.taped age scene).2.1 := by
  obtain ⟨stale, outdated, cleaned⟩ := cleanup_taped around age scene
  rw [cleaned]
  have kept : ∀ job ∈ scene.1.jobs, job ∈ scene.1.jobs.filter (fun job => !stale job) ↔
      ¬ Outdated around.stamp age job := by
    intro job member
    simp [List.mem_filter, member, ← outdated]
  refine ⟨rfl, List.filter_sublist, kept, fun job member slot => (kept job member).mpr ?_⟩
  -- a job in a slot has no end noted, even where it was cancelled
  rintro ⟨-, -, ended, -, -, -, -, noted, -⟩
  obtain ⟨standing, stands⟩ := sound.stands job.id
  obtain ⟨place, rfl⟩ := stands.of_mem member rfl
  obtain ⟨_, held⟩ := stands.mem_running.mp slot
  cases held
  simp [stands.fits.2.2] at noted

end Cleanup

/-- The jobs that lost their records. -/
def dropped (before after : Queue Time) : List JobId :=
  (before.jobs.map Job.id).filter fun id => (after.job? id).isNone

section Dropped

variable {queue : Queue Time} {id : JobId}

theorem Sound.job_unique (sound : Sound queue) {first second : Job} (listed : first ∈ queue.jobs)
    (again : second ∈ queue.jobs) (same : first.id = second.id) : first = second := by
  obtain ⟨standing, stands⟩ := sound.stands second.id
  obtain ⟨place, rfl⟩ := stands.of_mem listed same
  obtain ⟨_, other⟩ := stands.of_mem again rfl
  cases other
  rfl

/-- A job whose record says that it came to its end, and when, has done so. -/
theorem Sound.departed (sound : Sound queue) {job : Job} (listed : job ∈ queue.jobs)
    (terminal : job.status.isTerminal) (noted : job.completedAt.isSome) :
    Departed job.id queue := by
  obtain ⟨standing, stands⟩ := sound.stands job.id
  obtain ⟨place, rfl⟩ := stands.of_mem listed rfl
  constructor
  · refine Nat.lt_of_not_le fun unissued => ?_
    have absent := (sound.unissued job.id unissued).unique stands
    cases absent
  · intro other again
    obtain rfl := Option.some.inj (stands.job?.symm.trans again)
    exact ⟨terminal, noted⟩

theorem mem_dropped {before after : Queue Time} :
    id ∈ dropped before after ↔ (∃ job ∈ before.jobs, job.id = id) ∧ after.job? id = none := by
  simp [dropped]

/-- A queue that keeps some of its records is without those of the jobs that lost them. -/
theorem Sound.filter_eq_without (sound : Sound queue) (keep : Job → Bool) :
    ({ queue with jobs := queue.jobs.filter keep } : Queue Time) =
      queue.without (dropped queue { queue with jobs := queue.jobs.filter keep }) := by
  have kept : ∀ job ∈ queue.jobs, keep job =
      decide (job.id ∉ dropped queue { queue with jobs := queue.jobs.filter keep }) := by
    intro job member
    have missing : ({ queue with jobs := queue.jobs.filter keep } : Queue Time).job? job.id = none ↔
        keep job = false := by
      simp only [job?, List.find?_eq_none, List.mem_filter]
      constructor
      · intro none
        by_cases keeps : keep job
        · exact absurd (beq_self_eq_true job.id) (none job ⟨member, keeps⟩)
        · simpa using keeps
      · rintro drops other ⟨listed, keeps⟩ own
        obtain rfl := sound.job_unique listed member (by simpa using own)
        simp [drops] at keeps
    have gone : job.id ∈ dropped queue { queue with jobs := queue.jobs.filter keep } ↔
        keep job = false :=
      mem_dropped.trans ((and_iff_right ⟨job, member, rfl⟩).trans missing)
    cases keeps : keep job <;> simp [gone, keeps]
  rw [without, ← List.filter_congr kept]

theorem without_without (gone more : List JobId) :
    (queue.without gone).without more = queue.without (gone ++ more) := by
  simp only [without, List.filter_filter, List.mem_append, not_or, Bool.decide_and, Bool.and_comm]

end Dropped

/-- A use of a run, or a cleanup that is put between its uses. -/
inductive Entry (Time σ : Type) where
  | kept (use : Use Time σ)
  | inserted (around : Surroundings Time σ) (age : Value)

namespace Entry

def kept? : Entry Time σ → Option (Use Time σ)
  | .kept use => some use
  | .inserted .. => none

def use : Entry Time σ → Use Time σ
  | .kept use => use
  | .inserted around age => ⟨around, .cleanup age⟩

end Entry

/-- A run without and with the cleanups that are put into it, and the jobs that these dropped. -/
structure Twins (Time : Type) where
  plain : Scene Time (List (Signal Time))
  cleaned : Scene Time (List (Signal Time))
  gone : List JobId

namespace Twins

def perform (twins : Twins Time) : Entry Time σ → Twins Time
  | .kept use =>
    { twins with
      plain := use.operation.apply use.around.taped twins.plain
      cleaned := use.operation.apply use.around.taped twins.cleaned }
  | .inserted around age =>
    let cleaned := (cleanup around.taped age twins.cleaned).2
    { twins with cleaned, gone := twins.gone ++ dropped twins.cleaned.1 cleaned.1 }

/-- The runs differ in nothing but the records of the dropped jobs, and those are at their end in
the run without the cleanups. -/
structure Alike (twins : Twins Time) : Prop where
  same : twins.cleaned = twins.plain.edit (without twins.gone)
  departed : ∀ id ∈ twins.gone, Departed id twins.plain.1

/-- The next use stirs the run without the cleanups because of a job that these dropped. -/
def Disturbed (twins : Twins Time) : Entry Time σ → Prop
  | .kept use => ∃ id ∈ twins.gone, Stirs twins.plain.1 id use.operation
  | .inserted .. => False

structure Sound (twins : Twins Time) : Prop where
  plain : twins.plain.1.Sound
  cleaned : twins.cleaned.1.Sound

theorem Sound.perform {twins : Twins Time} (sound : twins.Sound) (entry : Entry Time σ) :
    (twins.perform entry).Sound := by
  cases entry with
  | kept use =>
      exact ⟨sound.plain.apply use.around.taped_quiet, sound.cleaned.apply use.around.taped_quiet⟩
  | inserted around age =>
      have cleaned : Queue.Sound (Operation.apply around.taped (.cleanup age) twins.cleaned).1 :=
        sound.cleaned.apply around.taped_quiet
      exact ⟨sound.plain, cleaned⟩

section Step

variable {twins : Twins Time}

theorem Alike.spares (alike : twins.Alike) (sound : twins.Sound) :
    Spares twins.gone twins.plain.1 :=
  fun id waits dropped => (alike.departed id dropped).not_pending sound.plain waits

theorem Alike.fresh (alike : twins.Alike) : twins.plain.1.issued ∉ twins.gone :=
  fun dropped => Nat.lt_irrefl _ (alike.departed _ dropped).1

theorem Alike.running_eq (alike : twins.Alike) :
    twins.cleaned.1.running = twins.plain.1.running := by
  rw [alike.same]
  rfl

/-- A use about no dropped job does the same in both runs. -/
theorem Alike.use_other (alike : twins.Alike) (sound : twins.Sound) {use : Use Time σ}
    (others : ∀ id, use.operation.job? = some id → id ∉ twins.gone) :
    (twins.perform (.kept use)).Alike := by
  constructor
  · simp only [perform, alike.same]
    exact apply_without alike.fresh (alike.spares sound) others
  · intro id dropped
    refine (alike.departed id dropped).apply use.around.taped_quiet sound.plain ?_
    intro retried
    exact others id (by rw [retried]; rfl) dropped

/-- A use about a dropped job does nothing in the run with the cleanups. -/
theorem Alike.cleaned_stays (alike : twins.Alike) (sound : twins.Sound) {use : Use Time σ}
    {id : JobId} (gone : id ∈ twins.gone) (about : use.operation.job? = some id) :
    use.operation.apply use.around.taped twins.cleaned = twins.cleaned := by
  have undelayed := (alike.departed id gone).not_delayed sound.plain
  rw [alike.same]
  exact apply_unlisted about (job?_without_gone gone) undelayed

/-- A use that stirs the run without the cleanups tells the runs apart: a job that is queued again
is told of, and an admission leaves no slot idle while a job waits. -/
theorem Alike.not_alike (alike : twins.Alike) (sound : twins.Sound) {use : Use Time σ} {id : JobId}
    (gone : id ∈ twins.gone) (stirs : Stirs twins.plain.1 id use.operation) :
    ¬ (twins.perform (.kept use)).Alike := by
  intro still
  have departed := alike.departed id gone
  have stays := alike.cleaned_stays sound gone stirs.about
  have both : twins.plain.edit (without twins.gone) =
      Scene.edit (without twins.gone) (use.operation.apply use.around.taped twins.plain) :=
    (stays.trans alike.same).symm.trans still.same
  obtain ⟨around, operation⟩ := use
  cases stirs with
  | revived listed failed going =>
      have tapes := congrArg (fun scene => scene.2.length) both
      exact absurd tapes (Nat.ne_of_lt (retry_taped_lt listed failed going))
  | admits reports listed cancelled idle =>
      have admitted :
          operation.apply around.taped twins.plain = admitAll around.taped twins.plain :=
        departed.apply_cancelled sound.plain reports listed cancelled
      have settled : Settled (admitAll around.taped twins.plain).1 :=
        admitAll_settled around.taped_quiet twins.plain
      have same : Settled (twins.plain.edit (without twins.gone)).1 := by
        rw [both]
        exact admitted.symm ▸ settled
      exact idle same

/-- A cleanup that is put into a run drops jobs that are at their end in the other. -/
theorem Alike.inserted (alike : twins.Alike) (sound : twins.Sound) (around : Surroundings Time σ)
    (age : Value) : (twins.perform (.inserted around age)).Alike := by
  obtain ⟨stale, outdated, cleaned⟩ := cleanup_taped around age twins.cleaned
  have missing := sound.cleaned.filter_eq_without fun job => !stale job
  constructor
  · simp only [perform, cleaned]
    have tapes : twins.cleaned.2 = twins.plain.2 := by
      rw [alike.same]
      rfl
    refine Prod.ext (missing.trans ?_) tapes
    rw [alike.same]
    exact without_without _ _
  · intro id gone
    rcases List.mem_append.mp gone with old | new
    · exact alike.departed id old
    · rw [cleaned] at new
      obtain ⟨⟨job, listed, rfl⟩, absent⟩ := mem_dropped.mp new
      have ended : stale job := Classical.byContradiction fun kept =>
        List.find?_eq_none.mp absent job (List.mem_filter.mpr ⟨listed, by simpa using kept⟩)
          (beq_self_eq_true _)
      obtain ⟨-, -, stamp, -, -, -, terminal, noted, -⟩ := (outdated job).mp ended
      rw [alike.same] at listed
      have listed : job ∈ twins.plain.1.jobs := (List.mem_filter.mp listed).1
      exact sound.plain.departed listed terminal (noted ▸ rfl)

/-- The runs stay alike exactly as long as no use stirs the one without the cleanups. -/
theorem Alike.perform_iff (alike : twins.Alike) (sound : twins.Sound) (entry : Entry Time σ) :
    (twins.perform entry).Alike ↔ ¬ twins.Disturbed entry := by
  cases entry with
  | inserted around age => exact iff_of_true (alike.inserted sound around age) not_false
  | kept use =>
      by_cases about : ∃ id ∈ twins.gone, use.operation.job? = some id
      · obtain ⟨id, gone, about⟩ := about
        constructor
        · rintro still ⟨other, dropped, stirs⟩
          exact alike.not_alike sound dropped stirs still
        · intro calm
          have same : twins.perform (.kept use) = twins := by
            have stays : use.operation.apply use.around.taped twins.plain = twins.plain :=
              (alike.departed id gone).apply_calm sound.plain about fun stirs =>
                calm ⟨id, gone, stirs⟩
            simp only [perform, alike.cleaned_stays sound gone about]
            rw [stays]
          rwa [same]
      · refine iff_of_true (alike.use_other sound fun id same gone => about ⟨id, gone, same⟩) ?_
        rintro ⟨id, gone, stirs⟩
        exact about ⟨id, gone, stirs.about⟩

end Step

end Twins

section Run

/-- A run from the start, without and with the cleanups that are put into it. -/
def twins (config : QueueConfig) (entries : List (Entry Time σ)) : Twins Time :=
  entries.foldl Twins.perform ⟨(empty config, []), (empty config, []), []⟩

/-- The twins are runs: one of the uses alone, and one of all entries. -/
theorem foldl_perform (entries : List (Entry Time σ)) (twins : Twins Time) :
    (entries.foldl Twins.perform twins).plain =
        run ((entries.filterMap Entry.kept?).map Use.taped) twins.plain ∧
      (entries.foldl Twins.perform twins).cleaned =
        run ((entries.map Entry.use).map Use.taped) twins.cleaned := by
  induction entries generalizing twins with
  | nil => exact ⟨rfl, rfl⟩
  | cons entry rest ih =>
      rw [List.foldl_cons, (ih _).1, (ih _).2]
      cases entry <;> exact ⟨rfl, rfl⟩

/-- As long as no report of a failed attempt breaks down, nothing is left to do after a run. -/
theorem run_settled {uses : List (Use Time σ)} {scene : Scene Time (List (Signal Time))}
    (sound : Sound scene.1) (settled : Settled scene.1)
    (fine : ∀ past use, past ++ [use] <+: uses →
      ¬ use.operation.BreaksDown use.around.taped (run (past.map Use.taped) scene)) :
    Settled (run (uses.map Use.taped) scene).1 := by
  induction uses generalizing scene with
  | nil => exact settled
  | cons use rest ih =>
      have quiet := use.around.taped_quiet
      have first := fine [] use (List.prefix_append [use] rest)
      have next : Settled (use.operation.apply use.around.taped scene).1 := by
        obtain ⟨around, operation⟩ := use
        cases operation with
        | fail id error => exact fail_settled quiet sound settled first
        | _ => exact apply_settled quiet sound settled (by simp)
      exact ih (sound.apply quiet) next fun past later begins =>
        fine (use :: past) later (List.cons_prefix_cons.mpr ⟨rfl, begins⟩)

/-- A run is disturbed by a retry of a dropped job, or after the report of a failed attempt has
broken down. -/
theorem Twins.Disturbed.cause {config : QueueConfig} {past : List (Entry Time σ)}
    {entry : Entry Time σ} (disturbed : (twins config past).Disturbed entry) :
    (∃ id ∈ (twins config past).gone, entry.use.operation = .retry id) ∨
      ∃ earlier report, earlier ++ [report] <+: past.filterMap Entry.kept? ∧
        report.operation.BreaksDown report.around.taped (record config earlier) := by
  cases entry with
  | inserted => exact disturbed.elim
  | kept use =>
      obtain ⟨around, operation⟩ := use
      obtain ⟨id, gone, stirs⟩ := disturbed
      cases stirs with
      | revived => exact .inl ⟨id, gone, rfl⟩
      | admits _ _ _ idle =>
          refine .inr (Classical.byContradiction fun fine => idle ?_)
          rw [show (twins config past).plain = _ from (foldl_perform past _).1]
          apply run_settled (sound_empty config) (.inr (.inl rfl))
          intro earlier report begins breaks
          exact fine ⟨earlier, report, begins, breaks⟩

/-- A cleanup drops exactly the jobs that came to their end earlier than so many seconds before, and
never a job in a slot. A run into which cleanups are put differs from the run without them in
nothing but the records of the jobs that these dropped, and in what is told of the cleanups
themselves, as long as none of these jobs is queued again by hand and no report of a failed attempt
breaks down. It does so exactly as long as no use stirs the run without the cleanups because of a
dropped job. -/
theorem cleaning_unseen_iff (config : QueueConfig) (entries : List (Entry Time σ)) :
    ((twins config entries).plain = record config (entries.filterMap Entry.kept?) ∧
      (twins config entries).cleaned = record config (entries.map Entry.use)) ∧
    (∀ (uses : List (Use Time σ)) (state : σ), (∀ use ∈ uses, use.around.Quiet) →
      (run uses (empty config, state)).1 = (record config uses).1) ∧
    (∀ (uses : List (Use Time σ)) (around : Surroundings Time σ) (age : Value),
      Cleans around.stamp age (record config uses).1
        (cleanup around.taped age (record config uses)).2.1) ∧
    ((∀ past entry, past ++ [entry] <+: entries →
        ∀ id ∈ (twins config past).gone, entry.use.operation ≠ .retry id) →
      (∀ past use, past ++ [use] <+: entries.filterMap Entry.kept? →
        ¬ use.operation.BreaksDown use.around.taped (record config past)) →
      ∀ past, past <+: entries → (twins config past).Alike) ∧
    ((∀ past, past <+: entries → (twins config past).Alike) ↔
      ∀ past entry, past ++ [entry] <+: entries → ¬ (twins config past).Disturbed entry) := by
  have alike_iff : (∀ past, past <+: entries → (twins config past).Alike) ↔
      ∀ past entry, past ++ [entry] <+: entries → ¬ (twins config past).Disturbed entry := by
    refine foldl_prefixes_iff Twins.perform Twins.Sound Twins.Alike
      (fun entry twins => twins.Disturbed entry) ?_ ?_ ?_ ?_
    · exact fun entry _ twins sound => sound.perform entry
    · exact fun entry _ twins sound alike => alike.perform_iff sound entry
    · exact ⟨sound_empty config, sound_empty config⟩
    · exact ⟨Prod.ext without_nil.symm rfl, by simp⟩
  refine ⟨foldl_perform entries _, fun uses state quiet => ?_, fun uses around age => ?_,
    fun unretried fine => ?_, alike_iff⟩
  · exact run_eq_record config state quiet
  · exact cleanup_cleans around age (record_sound config uses)
  · refine alike_iff.mpr fun past entry begins disturbed => ?_
    rcases disturbed.cause with ⟨id, gone, retried⟩ | ⟨earlier, report, before, breaks⟩
    · exact unretried past entry begins id gone retried
    · have within : past <+: entries := (List.prefix_append past [entry]).trans begins
      exact fine earlier report (before.trans (within.filterMap Entry.kept?)) breaks

/-- The same surroundings a second later. -/
def countingLater : Surroundings Nat Unit :=
  { counting with stamp := 1000 }

/-- A waiting job is cancelled and dropped, another one takes its place in the line, the report of
the running job breaks down, and then an outcome of the dropped job is reported. -/
def leftoverEntries : List (Entry Nat Unit) :=
  [.kept ⟨counting, .register { name := "wf", retries := some 3 }⟩,
    .kept ⟨counting, .enqueue (.str "wf") {}⟩, .kept ⟨counting, .enqueue (.str "wf") {}⟩,
    .kept ⟨counting, .cancel 1⟩, .kept ⟨counting, .enqueue (.str "wf") {}⟩,
    .inserted countingLater (.int 0), .kept ⟨countingLater, .fail 0 (some "boom")⟩,
    .kept ⟨countingLater, .complete 1 .null⟩]

theorem leftover_running :
    (twins overlongConfig leftoverEntries).gone = [1] ∧
      (twins overlongConfig leftoverEntries).plain.1.running = [2] ∧
      (twins overlongConfig leftoverEntries).cleaned.1.running = [] := by
  decide +kernel

theorem leftover_not_alike : ¬ (twins overlongConfig leftoverEntries).Alike := by
  intro alike
  obtain ⟨-, plain, cleaned⟩ := leftover_running
  have slots := plain.symm.trans (alike.running_eq.symm.trans cleaned)
  cases slots

/-- After a delay that the strategy gives, and that the clock cannot count, the late outcome of a
cancelled job starts the next one, unless a cleanup has dropped the cancelled job. -/
theorem overlong_delay_shows_cleanup :
    (∀ attempts, retryDelay overlongConfig attempts = .ok (.int overlong)) ∧
      (∀ entry ∈ leftoverEntries, entry.use.around.clock.isSome ∧
        ∀ id, entry.use.operation ≠ .retry id) ∧
      (twins overlongConfig leftoverEntries).plain.1.running = [2] ∧
      (twins overlongConfig leftoverEntries).cleaned.1.running = [] ∧
      ¬ ∀ past, past <+: leftoverEntries → (twins overlongConfig past).Alike := by
  refine ⟨retryDelay_fixed rfl, ?_, leftover_running.2.1, leftover_running.2.2, fun kept => ?_⟩
  · simp [leftoverEntries, Entry.use, counting, countingLater]
  · exact leftover_not_alike (kept leftoverEntries List.prefix_rfl)

/-- The late outcome disturbs the run. -/
theorem late_outcome_disturbs :
    ∃ past entry, past ++ [entry] <+: leftoverEntries ∧
      (twins overlongConfig past).Disturbed entry := by
  refine Classical.byContradiction fun none => leftover_not_alike ?_
  have alike_iff := (cleaning_unseen_iff overlongConfig leftoverEntries).2.2.2.2
  refine alike_iff.mpr ?_ leftoverEntries List.prefix_rfl
  intro past entry begins disturbed
  exact none ⟨past, entry, begins, disturbed⟩

end Run

end Orchestra.Queue
