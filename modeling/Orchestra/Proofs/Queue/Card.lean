import Orchestra.Queue.Control

/-!
The card of a job: everything that a queue holds about it.

Every change of a queue concerns one job, apart from cleaning up and stopping. The card of that job
changes as stated here, and the cards of all others stay.
-/

namespace Orchestra.Queue

variable {Time : Type}

/-- The records of a job, how often it is in line and in a slot, and when its delays are over. -/
@[ext] structure Card (Time : Type) where
  records : List Job := []
  line : Nat := 0
  slots : Nat := 0
  delays : List Time := []

/-- What a queue holds about a job. -/
def card (id : JobId) (queue : Queue Time) : Card Time where
  records := queue.jobs.filter fun job => job.id == id
  line := queue.pending.count id
  slots := queue.running.count id
  delays := (queue.delayed.filter fun entry => entry.1 == id).map Prod.snd

/-- A change of a job keeps its number. -/
def KeepsId (change : Job → Job) : Prop :=
  ∀ job, (change job).id = job.id

theorem job?_eq_card (id : JobId) (queue : Queue Time) :
    queue.job? id = (queue.card id).records.head? := by
  simp [job?, card, List.head?_filter]

theorem job?_id {id : JobId} {queue : Queue Time} {job : Job} (listed : queue.job? id = some job) :
    job.id = id := by
  simpa using List.find?_some listed

theorem mem_pending_iff_card {id : JobId} {queue : Queue Time} :
    id ∈ queue.pending ↔ 0 < (queue.card id).line :=
  List.count_pos_iff.symm

theorem mem_running_iff_card {id : JobId} {queue : Queue Time} :
    id ∈ queue.running ↔ 0 < (queue.card id).slots :=
  List.count_pos_iff.symm

theorem mem_delayed_iff_card {id : JobId} {due : Time} {queue : Queue Time} :
    (id, due) ∈ queue.delayed ↔ due ∈ (queue.card id).delays := by
  simp [card]

theorem delayed_of_card {id : JobId} {due : Time} {queue : Queue Time}
    (only : (queue.card id).delays = [due]) :
    queue.delayed.filter (fun entry => entry.1 == id) = [(id, due)] := by
  obtain ⟨⟨other, due⟩, entries, rfl⟩ := List.map_eq_singleton_iff.mp only
  have member : (other, due) ∈ queue.delayed.filter fun entry => entry.1 == id := by simp [entries]
  obtain rfl : other = id := by simpa using (List.mem_filter.mp member).2
  exact entries

section Edit

variable {id other : JobId} {change : Job → Job} {queue : Queue Time}

theorem filter_edit_self (keeps : KeepsId change) (jobs : List Job) :
    (jobs.map fun job => if job.id == id then change job else job).filter
        (fun job => job.id == id) =
      (jobs.filter fun job => job.id == id).map change := by
  induction jobs with
  | nil => rfl
  | cons job rest ih =>
      simp only [beq_iff_eq] at ih
      by_cases same : job.id = id
      · simp [same, keeps job, ih]
      · simp [same, ih]

theorem filter_edit_other (keeps : KeepsId change) (different : other ≠ id) (jobs : List Job) :
    (jobs.map fun job => if job.id == id then change job else job).filter
        (fun job => job.id == other) =
      jobs.filter fun job => job.id == other := by
  induction jobs with
  | nil => rfl
  | cons job rest ih =>
      simp only [beq_iff_eq] at ih
      by_cases same : job.id = id
      · simp [same, keeps job, different.symm, ih]
      · simp [same, List.filter_cons, ih]

/-- A change of a record shows on the card of its job. -/
theorem card_edit_self (change : Job → Job) (keeps : KeepsId change) :
    (queue.edit id change).card id =
      { queue.card id with records := (queue.card id).records.map change } := by
  simp only [card, edit, filter_edit_self keeps]

/-- A change of a record leaves all other cards alone. -/
theorem card_edit_other (change : Job → Job) (keeps : KeepsId change) (different : other ≠ id) :
    (queue.edit id change).card other = queue.card other := by
  simp only [card, edit, filter_edit_other keeps different]

end Edit

section Places

variable {id other : JobId} {queue : Queue Time}

@[simp] theorem card_append_self :
    (queue.append id).card id = { queue.card id with line := (queue.card id).line + 1 } := by
  simp [card, append]

theorem card_append_other (different : other ≠ id) :
    (queue.append id).card other = queue.card other := by
  simp [card, append, different.symm]

@[simp] theorem card_vacate_self :
    (queue.vacate id).card id = { queue.card id with slots := 0 } := by
  simp [card, vacate, List.count_eq_zero]

theorem card_vacate_other (different : other ≠ id) :
    (queue.vacate id).card other = queue.card other := by
  simp [card, vacate, List.count_filter, different]

theorem card_occupy_self (free : (queue.card id).slots = 0) :
    (queue.occupy id).card id = { queue.card id with slots := 1 } := by
  have outside : id ∉ queue.running := by simp [mem_running_iff_card, free]
  simp [card, occupy, List.insert_of_not_mem outside, List.count_eq_zero.mpr outside]

theorem card_occupy_other (different : other ≠ id) :
    (queue.occupy id).card other = queue.card other := by
  by_cases inside : id ∈ queue.running
  · simp [card, occupy, List.insert_of_mem inside]
  · simp [card, occupy, List.insert_of_not_mem inside, different.symm]

@[simp] theorem card_undelay_self :
    (queue.undelay id).card id = { queue.card id with delays := [] } := by
  simp [card, undelay, List.filter_filter]

theorem card_undelay_other (different : other ≠ id) :
    (queue.undelay id).card other = queue.card other := by
  have same : ∀ entry : JobId × Time,
      (entry.1 == other && entry.1 != id) = (entry.1 == other) := by
    intro entry
    by_cases wanted : entry.1 = other <;> simp [wanted, different]
  simp [card, undelay, List.filter_filter, same]

theorem card_add_self {job : Job} (number : job.id = id) (issued : Nat) :
    ({ queue with
      jobs := queue.jobs ++ [job]
      pending := queue.pending ++ [id]
      issued } : Queue Time).card id =
      { queue.card id with
        records := (queue.card id).records ++ [job]
        line := (queue.card id).line + 1 } := by
  simp [card, number]

theorem card_add_other {job : Job} (number : job.id = id) (issued : Nat)
    (different : other ≠ id) :
    ({ queue with
      jobs := queue.jobs ++ [job]
      pending := queue.pending ++ [id]
      issued } : Queue Time).card other = queue.card other := by
  simp [card, number, different.symm]

theorem card_pop_self {rest : List JobId} (first : queue.pending = id :: rest) :
    ({ queue with pending := rest } : Queue Time).card id =
      { queue.card id with line := (queue.card id).line - 1 } := by
  simp [card, first]

theorem card_pop_other {rest : List JobId} (first : queue.pending = id :: rest)
    (different : other ≠ id) :
    ({ queue with pending := rest } : Queue Time).card other = queue.card other := by
  simp [card, first, different.symm]

theorem card_leave_self (id : JobId) (queue : Queue Time) :
    ({ queue with pending := queue.pending.erase id } : Queue Time).card id =
      { queue.card id with line := (queue.card id).line - 1 } := by
  simp [card]

theorem card_leave_other (different : other ≠ id) :
    ({ queue with pending := queue.pending.erase id } : Queue Time).card other =
      queue.card other := by
  simp [card, List.count_erase_of_ne different]

theorem card_delay_self (id : JobId) (due : Time) (queue : Queue Time) :
    ({ queue with delayed := queue.delayed ++ [(id, due)] } : Queue Time).card id =
      { queue.card id with delays := (queue.card id).delays ++ [due] } := by
  simp [card]

theorem card_delay_other (due : Time) (different : other ≠ id) :
    ({ queue with delayed := queue.delayed ++ [(id, due)] } : Queue Time).card other =
      queue.card other := by
  simp [card, different.symm]

end Places

end Orchestra.Queue
