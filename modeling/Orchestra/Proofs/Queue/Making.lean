import Orchestra.Proofs.Manager.Birth

/-!
What putting a job into the line adds to a queue.

The admission that follows makes no job and leaves the workflows alone, so that one new record is all
that comes of it, whatever is started in between.
-/

namespace Orchestra.Queue

variable {Time σ : Type} {around : Surroundings Time σ}

/-- A queue to which jobs were added, in the order of their titles. -/
structure Gains (titles : List (JobId × String × Context)) (before after : Queue Time) : Prop where
  workflows : after.workflows = before.workflows
  stopping : after.stopping = before.stopping
  issued : after.issued = before.issued + titles.length
  titles : after.jobs.map Job.title = before.jobs.map Job.title ++ titles

namespace Gains

variable {first second third queue next : Queue Time}
  {titles more : List (JobId × String × Context)}

theorem refl (queue : Queue Time) : Gains [] queue queue where
  workflows := rfl
  stopping := rfl
  issued := rfl
  titles := (List.append_nil _).symm

theorem trans (before : Gains titles first second) (after : Gains more second third) :
    Gains (titles ++ more) first third where
  workflows := after.workflows.trans before.workflows
  stopping := after.stopping.trans before.stopping
  issued := by rw [after.issued, before.issued, List.length_append, Nat.add_assoc]
  titles := by rw [after.titles, before.titles, List.append_assoc]

/-- Changing what may change about a job adds none. -/
theorem edit (change : Job → Job) (same : ∀ job, (change job).title = job.title) (id : JobId)
    (queue : Queue Time) : Gains [] queue (queue.edit id change) where
  workflows := rfl
  stopping := rfl
  issued := rfl
  titles := by rw [titles_edit same, List.append_nil]

theorem lined (queue : Queue Time) (name : String) (context : Context) (stamp : Stamp) :
    Gains [(queue.issued, name, context)] queue (queue.lined name context stamp) where
  workflows := rfl
  stopping := rfl
  issued := rfl
  titles := by simp [Queue.lined, newJob, Job.title]

end Gains

section Admission

variable (quiet : around.Quiet)

include quiet

end Admission

end Orchestra.Queue
