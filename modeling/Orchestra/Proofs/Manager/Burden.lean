import Mathlib.Logic.Hydra
import Orchestra.Proofs.Manager.System

/-!
What a manager still has to do.

Every job, every attempt and every delay is a burden. An act may replace a burden by any number of
lighter ones: a job by an attempt and the same job with fewer attempts left, an attempt by what
remains of it after an answer and by jobs one step deeper in the cascade. Such replacements cannot go
on for ever.
-/

namespace Orchestra

open Relation

/-- What remains of a run after the answer to a question. -/
inductive Remains : Option Running → Option Running → Prop where
  | answered (question : Execution.Question) (next : Execution.Answer → Running)
      (answer : Execution.Answer) : Remains (some (next answer)) (some (.ask question next))

/-- Whatever the answers are, a run comes to its end: by induction on the run. -/
theorem remains_wf : WellFounded Remains := by
  have running : ∀ rest : Running, Acc Remains (some rest) := by
    intro rest
    induction rest with
    | done result => exact ⟨_, fun _ remains => nomatch remains⟩
    | ask question next ih =>
        refine ⟨_, fun _ remains => ?_⟩
        cases remains with
        | answered _ _ answer => exact ih answer
  refine ⟨fun rest => ?_⟩
  cases rest with
  | none => exact ⟨_, fun _ remains => nomatch remains⟩
  | some rest => exact running rest

/-- Something that a manager still has to do. -/
structure Burden where
  /-- The number of runs that may follow in the chain. -/
  hops : Nat
  weight : Nat
  rest : Option Running := none

namespace Burden

/-- One burden is lighter than another: fewer runs may follow it, or it weighs less, or less of it
remains. -/
def Lighter : Burden → Burden → Prop :=
  InvImage (Prod.Lex (· < ·) (Prod.Lex (· < ·) Remains))
    fun burden => (burden.hops, burden.weight, burden.rest)

theorem lighter_wf : WellFounded Lighter :=
  InvImage.wf _ (Nat.lt_wfRel.wf.prod_lex (Nat.lt_wfRel.wf.prod_lex remains_wf))

variable {burden other : Burden}

theorem lighter_of_hops (fewer : burden.hops < other.hops) : burden.Lighter other :=
  Prod.Lex.left _ _ fewer

theorem lighter_of_weight (same : burden.hops = other.hops) (less : burden.weight < other.weight) :
    burden.Lighter other := by
  obtain ⟨hops, weight, rest⟩ := burden
  cases same
  exact Prod.Lex.right _ (Prod.Lex.left _ _ less)

theorem lighter_of_remains {hops weight : Nat} {rest whole : Option Running}
    (remains : Remains rest whole) : Lighter ⟨hops, weight, rest⟩ ⟨hops, weight, whole⟩ :=
  Prod.Lex.right _ (Prod.Lex.right _ remains)

/-- What a delay is: the lightest burden of all. -/
def alarm : Burden := ⟨0, 0, none⟩

theorem alarm_lighter (positive : 0 < burden.weight) : alarm.Lighter burden := by
  by_cases last : burden.hops = 0
  · exact lighter_of_weight last.symm positive
  · exact lighter_of_hops (Nat.pos_of_ne_zero last)

end Burden

/-- A heap of burdens came from another one by some replacements, or by none. -/
abbrev Sheds : Multiset Burden → Multiset Burden → Prop :=
  ReflTransGen (CutExpand Burden.Lighter)

/-- A heap of burdens came from another one by at least one replacement. -/
abbrev Lightens : Multiset Burden → Multiset Burden → Prop :=
  TransGen (CutExpand Burden.Lighter)

/-- A heap of burdens cannot be lightened for ever. -/
theorem lightens_wf : WellFounded Lightens :=
  Burden.lighter_wf.cutExpand.transGen

section Heaps

variable {heap lighter : Multiset Burden} {burden : Burden}

theorem lightens_replace (heap : Multiset Burden) (each : ∀ other ∈ lighter, other.Lighter burden) :
    Lightens (heap + lighter) (heap + {burden}) :=
  .single ((cutExpand_add_left heap).mpr (cutExpand_singleton each))

theorem Sheds.add (sheds : Sheds lighter heap) (other : Multiset Burden) :
    Sheds (other + lighter) (other + heap) :=
  sheds.lift (other + ·) fun _ _ => (cutExpand_add_left other).mpr

/-- Burdens that are gone lighten a heap. -/
theorem lightens_drop (heap : Multiset Burden) (some : lighter ≠ 0) :
    Lightens heap (heap + lighter) := by
  induction lighter using Multiset.induction with
  | empty => exact (some rfl).elim
  | cons burden rest ih =>
      have first : Lightens (heap + rest + 0) (heap + rest + {burden}) :=
        lightens_replace (heap + rest) (by simp)
      rw [add_zero] at first
      rw [← Multiset.singleton_add, add_comm {burden} rest, ← add_assoc]
      by_cases last : rest = 0
      · subst last
        simpa using first
      · exact (ih last).trans first

end Heaps

/-- The burdens of jobs and attempts, given how many runs may follow each and how often each
workflow may be started. -/
structure Scales where
  hops : JobId → Nat
  budget : String → Int

namespace Scales

variable {Time : Type}

/-- The budgets of a queue, and jobs that nothing may follow. -/
def plain (queue : Queue Time) : Scales :=
  ⟨fun _ => 0, queue.budget⟩

/-- What a job weighs: twice the attempts that may still be started, and the one that is running. -/
def left (scales : Scales) (job : Job) : Nat :=
  match job.status with
  | .pending => 2 * max 1 (scales.budget job.workflow - job.attempts).toNat
  | .running => 2 * (scales.budget job.workflow - job.attempts).toNat + 1
  | .completed | .failed | .cancelled => 0

def job (scales : Scales) (job : Job) : Burden :=
  ⟨scales.hops job.id, 3 + scales.left job, none⟩

def attempt (scales : Scales) : Attempt → Burden
  | .launched id _ => ⟨scales.hops id, 2, none⟩
  | .underway id rest => ⟨scales.hops id, 1, some rest⟩

/-- All that is still to do. -/
def load (scales : Scales) (scene : Scene Time (List Attempt)) : Multiset Burden :=
  (scene.1.jobs.map scales.job : Multiset Burden) +
    Multiset.replicate scene.1.delayed.length Burden.alarm + scene.2.map scales.attempt

/-- The load depends on the numbers of the jobs at hand only. -/
theorem load_congr {scales others : Scales} {scene : Scene Time (List Attempt)}
    (budget : scales.budget = others.budget)
    (jobs : ∀ job ∈ scene.1.jobs, scales.hops job.id = others.hops job.id)
    (attempts : ∀ attempt ∈ scene.2, scales.hops attempt.job = others.hops attempt.job) :
    scales.load scene = others.load scene := by
  have same_jobs : scene.1.jobs.map scales.job = scene.1.jobs.map others.job :=
    List.map_congr_left fun record member => by
      simp only [Scales.job, left, budget, jobs record member]
  have same_attempts : scene.2.map scales.attempt = scene.2.map others.attempt :=
    List.map_congr_left fun attempt member => by
      have same := attempts attempt member
      cases attempt <;> simpa [Scales.attempt, Attempt.job] using same
  simp only [load, same_jobs, same_attempts]

end Scales

end Orchestra
