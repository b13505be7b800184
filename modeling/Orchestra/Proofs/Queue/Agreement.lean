import Orchestra.Proofs.Queue.Acts

/-!
Quiet listeners do not matter to a queue.

Two surroundings that have the same clocks, and whose listeners leave the queue alone, make the same
of a queue, whatever the listeners do with what they hear.
-/

namespace Orchestra

variable {Time σ τ : Type}

/-- Two quiet surroundings that differ in nothing but what their listeners make of what they
hear. -/
structure Surroundings.Agrees (around : Surroundings Time σ) (other : Surroundings Time τ) :
    Prop where
  stamp : around.stamp = other.stamp
  clock : around.clock = other.clock
  after : around.after = other.after
  runsJobs : around.runsJobs = other.runsJobs
  quiet : around.Quiet
  still : other.Quiet

namespace Queue

variable {around : Surroundings Time σ} {other : Surroundings Time τ} {queue : Queue Time}
  {state : σ} {mood : τ} {id : JobId}

section Admission

variable (agrees : around.Agrees other)

include agrees

theorem hear_agrees (event event' : Event) {scene : Scene Time σ} {mirror : Scene Time τ}
    (same : scene.1 = mirror.1) : (around.hear event scene).1 = (other.hear event' mirror).1 := by
  calc (around.hear event scene).1
    _ = scene.1 := agrees.quiet event scene.1 scene.2
    _ = mirror.1 := same
    _ = (other.hear event' mirror).1 := (agrees.still event' mirror.1 mirror.2).symm

/-- Telling quiet listeners leaves equal queues equal. -/
theorem tell_agrees (event event' : Job → Event) {scene : Scene Time σ} {mirror : Scene Time τ}
    (same : scene.1 = mirror.1) :
    (Scene.tell around event id scene).1 = (Scene.tell other event' id mirror).1 := by
  rw [tell_fst agrees.quiet, tell_fst agrees.still, same]

theorem admitJob_agrees :
    (admitJob around id (queue, state)).1 = (admitJob other id (queue, mood)).1 := by
  simp only [admitJob, agrees.runsJobs, agrees.clock]
  split
  · rfl
  · split
    · rfl
    · split
      · simp only [refuse, tell_fst agrees.quiet, tell_fst agrees.still, agrees.stamp]
        rfl
      · split
        · simp only [refuse, tell_fst agrees.quiet, tell_fst agrees.still, agrees.stamp]
          rfl
        · simp only [start, tell_fst agrees.quiet, tell_fst agrees.still, agrees.stamp]
          rfl

theorem admitUpTo_agrees (limit : Nat) {scene : Scene Time σ} {mirror : Scene Time τ}
    (same : scene.1 = mirror.1) :
    (admitUpTo around limit scene).1 = (admitUpTo other limit mirror).1 := by
  induction limit generalizing scene mirror with
  | zero => exact same
  | succ limit ih =>
      unfold admitUpTo
      rw [same]
      split
      next => exact same
      next id rest _ =>
        split
        next => exact same
        next => exact ih (by rw [Scene.edit, Scene.edit, same]; exact admitJob_agrees agrees)

theorem admitAll_agrees {scene : Scene Time σ} {mirror : Scene Time τ}
    (same : scene.1 = mirror.1) :
    (admitAll around scene).1 = (admitAll other mirror).1 := by
  unfold admitAll
  rw [same]
  exact admitUpTo_agrees agrees _ same

end Admission

section Operations

variable (agrees : around.Agrees other)

include agrees

theorem release_agrees :
    (release around id (queue, state)).1 = (release other id (queue, mood)).1 ∧
      (release around id (queue, state)).2.1 = (release other id (queue, mood)).2.1 := by
  simp only [release, agrees.stamp]
  split
  · exact ⟨rfl, rfl⟩
  · split
    · exact ⟨rfl, admitAll_agrees agrees rfl⟩
    · split <;> exact ⟨rfl, rfl⟩

theorem complete_agrees (result : Value) :
    (complete around id result (queue, state)).1 = (complete other id result (queue, mood)).1 := by
  obtain ⟨counts, queues⟩ :
      (release around id (queue, state)).1 = (release other id (queue, mood)).1 ∧
        (release around id (queue, state)).2.1 = (release other id (queue, mood)).2.1 :=
    release_agrees agrees
  unfold complete
  generalize release around id (queue, state) = first at counts queues
  generalize release other id (queue, mood) = second at counts queues
  obtain ⟨counted, scene⟩ := first
  obtain ⟨_, mirror⟩ := second
  cases counts
  cases counted with
  | none => exact queues
  | some =>
      have queues : scene.1 = mirror.1 := queues
      refine admitAll_agrees agrees (tell_agrees agrees _ _ ?_)
      simp only [Scene.edit, agrees.stamp, queues]

theorem delay_agrees {job : Job} {scene : Scene Time σ} {mirror : Scene Time τ}
    (same : scene.1 = mirror.1) :
    (delay around job scene).1 = (delay other job mirror).1 ∧
      (delay around job scene).2.1 = (delay other job mirror).2.1 := by
  simp only [delay, agrees.clock, agrees.after, same]
  split
  · exact ⟨rfl, same⟩
  · split
    · exact ⟨rfl, by simp only [Scene.edit, same]⟩
    · split
      · exact ⟨rfl, by simp only [Scene.edit, same]⟩
      · exact ⟨rfl, by simp only [Scene.edit, same]⟩

theorem fail_agrees (error : Option String) :
    (fail around id error (queue, state)).2.1 = (fail other id error (queue, mood)).2.1 := by
  obtain ⟨counts, queues⟩ :
      (release around id (queue, state)).1 = (release other id (queue, mood)).1 ∧
        (release around id (queue, state)).2.1 = (release other id (queue, mood)).2.1 :=
    release_agrees agrees
  unfold fail
  generalize release around id (queue, state) = first at counts queues
  generalize release other id (queue, mood) = second at counts queues
  obtain ⟨counted, scene⟩ := first
  obtain ⟨_, mirror⟩ := second
  cases counts
  cases counted with
  | none => exact queues
  | some job =>
      have queues : scene.1 = mirror.1 := queues
      have noted : (scene.edit (edit id (noteError error))).1 =
          (mirror.edit (edit id (noteError error))).1 := congrArg (edit id (noteError error)) queues
      unfold noteError at noted
      dsimp only
      generalize scene.edit _ = next at noted
      generalize mirror.edit _ = next' at noted
      obtain ⟨queue, state⟩ := next
      obtain ⟨_, mood⟩ := next'
      cases noted
      split
      · have delayed : (delay around job (queue, state)).1 = (delay other job (queue, mood)).1 ∧
            (delay around job (queue, state)).2.1 = (delay other job (queue, mood)).2.1 :=
          delay_agrees agrees rfl
        generalize delay around job (queue, state) = late at delayed
        generalize delay other job (queue, mood) = later at delayed
        obtain ⟨outcome, scene⟩ := late
        obtain ⟨_, mirror⟩ := later
        obtain ⟨outcomes, queues⟩ := delayed
        cases outcomes
        cases outcome with
        | error => exact queues
        | ok => exact admitAll_agrees agrees queues
      · refine admitAll_agrees agrees (tell_agrees agrees _ _ ?_)
        simp only [Scene.edit, agrees.stamp]

theorem register_agrees (workflow : Definition) :
    (register around workflow (queue, state)).2.1 =
      (register other workflow (queue, mood)).2.1 := by
  unfold register
  split
  · rfl
  · exact hear_agrees agrees _ _ rfl

theorem enqueueValue_agrees (name : Value) (context : Context) :
    (enqueueValue around name context (queue, state)).2.1 =
      (enqueueValue other name context (queue, mood)).2.1 := by
  unfold enqueueValue
  split
  · simp only [enqueue, agrees.stamp]
    split
    · rfl
    · split
      · rfl
      · split
        · rfl
        · exact admitAll_agrees agrees (tell_agrees agrees _ _ rfl)
  · split <;> rfl

theorem apply_agrees (operation : Operation) :
    (operation.apply around (queue, state)).1 = (operation.apply other (queue, mood)).1 := by
  cases operation with
  | register workflow => exact register_agrees agrees workflow
  | registerValue data =>
      simp only [Operation.apply, registerValue]
      split
      · split
        · exact register_agrees agrees _
        · rfl
      · rfl
  | unregister name =>
      simp only [Operation.apply, unregister]
      split
      · rfl
      · exact hear_agrees agrees _ _ rfl
  | enqueue name context => exact enqueueValue_agrees agrees name context
  | cancel id =>
      simp only [Operation.apply, cancel, agrees.stamp]
      split
      · rfl
      · split
        · exact tell_agrees agrees _ _ rfl
        · exact tell_agrees agrees _ _ rfl
        all_goals rfl
  | retry id =>
      simp only [Operation.apply, retry]
      split
      · rfl
      · split
        · rfl
        · split
          · rfl
          · exact admitAll_agrees agrees (tell_agrees agrees _ _ rfl)
  | complete id result => exact complete_agrees agrees result
  | fail id error => exact fail_agrees agrees error
  | wake id =>
      simp only [Operation.apply, wake, Scene.edit]
      split
      · split
        · rfl
        · split
          · rfl
          · exact admitAll_agrees agrees (tell_agrees agrees _ _ rfl)
      · rfl
  | cleanup age =>
      simp only [Operation.apply, cleanup, agrees.stamp]
      split
      · rfl
      · split
        · rfl
        · simp only [dropStale]
          split
          · rfl
          · exact hear_agrees agrees _ _ rfl
  | stop => rfl

end Operations

/-- A run leaves the same queue whatever quiet listeners make of it. -/
theorem run_agrees {uses : List (Use Time σ)} (mirror : Use Time σ → Use Time τ)
    (agrees : ∀ use ∈ uses, use.around.Agrees (mirror use).around)
    (same : ∀ use ∈ uses, (mirror use).operation = use.operation) {first : Scene Time σ}
    {second : Scene Time τ} (queues : first.1 = second.1) :
    (run uses first).1 = (run (uses.map mirror) second).1 := by
  induction uses generalizing first second with
  | nil => exact queues
  | cons use rest ih =>
      apply ih (fun later member => agrees later (List.mem_cons_of_mem _ member))
        fun later member => same later (List.mem_cons_of_mem _ member)
      obtain ⟨queue, state⟩ := first
      obtain ⟨_, mood⟩ := second
      cases queues
      dsimp only
      rw [same use List.mem_cons_self]
      exact apply_agrees (agrees use List.mem_cons_self) use.operation

end Queue

end Orchestra
