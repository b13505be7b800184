import Mathlib.Data.Nat.Basic
import Mathlib.Order.Defs.PartialOrder
import Orchestra.Proofs.Queue.Passage

/-!
The plain retry loop.

Attempts of one job are made one after another. A failed one is repeated while the budget allows it,
not before a delay has passed, and the first one is made in any case. Where a job stands in a queue
shows where its loop is, and its record tells what the loop has made of it.
-/

namespace Orchestra.Queue

variable {Time : Type}

/-- How an attempt ends. -/
inductive Verdict where
  | success (result : Value)
  | failure (error : Option String)

/-- The last attempt of a loop that is at an attempt and has some more left. -/
def lastFrom (verdict : Nat → Verdict) (attempt : Nat) : Nat → Nat
  | 0 => attempt
  | left + 1 =>
    match verdict attempt with
    | .success _ => attempt
    | .failure _ => lastFrom verdict (attempt + 1) left

/-- The last attempt of the loop. There is at least one. -/
def lastAttempt (verdict : Nat → Verdict) (budget : Int) : Nat :=
  lastFrom verdict 1 (budget.toNat - 1)

/-- The loop ends with the first success, or with the last attempt that is left. -/
theorem lastFrom_eq {verdict : Nat → Verdict} {first last left : Nat} (start : first ≤ last)
    (failed : ∀ attempt, first ≤ attempt → attempt < last →
      ∃ error, verdict attempt = .failure error)
    (within : last ≤ first + left)
    (ended : (∃ result, verdict last = .success result) ∨ last = first + left) :
    lastFrom verdict first left = last := by
  induction left generalizing first with
  | zero => exact Nat.le_antisymm start within
  | succ left ih =>
      unfold lastFrom
      by_cases here : first = last
      · subst here
        rcases ended with ⟨result, success⟩ | spent
        · simp [success]
        · omega
      · obtain ⟨error, failure⟩ := failed first (Nat.le_refl _) (by omega)
        simp only [failure]
        refine ih (by omega) (fun attempt later => failed attempt (by omega)) (by omega) ?_
        rcases ended with success | spent
        · exact .inl success
        · exact .inr (by omega)

/-- The begin or the end of an attempt, with its time. -/
inductive Trial (Time : Type) where
  | began (attempt : Nat) (instant : Time)
  | ended (attempt : Nat) (instant : Time)
deriving DecidableEq

/-- The attempts that began. -/
def begun (trials : List (Trial Time)) : List Nat :=
  trials.filterMap fun
    | .began attempt _ => some attempt
    | .ended .. => none

/-- The attempts that ended. -/
def closed (trials : List (Trial Time)) : List Nat :=
  trials.filterMap fun
    | .began .. => none
    | .ended attempt _ => some attempt

section Trials

variable {trials : List (Trial Time)} {attempt : Nat} {instant : Time}

@[simp] theorem begun_began :
    begun (trials ++ [.began attempt instant]) = begun trials ++ [attempt] := by
  simp [begun]

@[simp] theorem begun_ended : begun (trials ++ [.ended attempt instant]) = begun trials := by
  simp [begun]

@[simp] theorem closed_began : closed (trials ++ [.began attempt instant]) = closed trials := by
  simp [closed]

@[simp] theorem closed_ended :
    closed (trials ++ [.ended attempt instant]) = closed trials ++ [attempt] := by
  simp [closed]

theorem mem_begun : attempt ∈ begun trials ↔ ∃ instant, .began attempt instant ∈ trials := by
  simp only [begun, List.mem_filterMap]
  constructor
  · rintro ⟨_ | _, member, ⟨⟩⟩
    exact ⟨_, member⟩
  · rintro ⟨instant, member⟩
    exact ⟨_, member, rfl⟩

theorem mem_closed : attempt ∈ closed trials ↔ ∃ instant, .ended attempt instant ∈ trials := by
  simp only [closed, List.mem_filterMap]
  constructor
  · rintro ⟨_ | _, member, ⟨⟩⟩
    exact ⟨_, member⟩
  · rintro ⟨instant, member⟩
    exact ⟨_, member, rfl⟩

end Trials

/-- Where the loop is. -/
inductive Stage (Time : Type) where
  /-- Some attempts were made, the last one of which failed at a time. -/
  | ready (made : Nat) (since : Option Time)
  | trying (attempt : Nat)
  /-- An attempt ended at a time, and nothing was made of it yet. -/
  | tried (attempt : Nat) (instant : Time)
  | finished (attempt : Nat)

/-- The number of attempts that began. -/
def Stage.made : Stage Time → Nat
  | .ready made _ => made
  | .trying attempt | .tried attempt _ | .finished attempt => attempt

/-- The number of attempts that ended. -/
def Stage.done : Stage Time → Nat
  | .ready made _ => made
  | .trying attempt => attempt - 1
  | .tried attempt _ | .finished attempt => attempt

theorem Stage.made_le (stage : Stage Time) : stage.made ≤ stage.done + 1 := by
  cases stage with
  | ready | tried | finished => exact Nat.le_succ _
  | trying attempt => exact Nat.le_add_of_sub_le (Nat.le_refl _)

/-- The course of the loop. The relation says that the delay after an attempt that ended at a time
is over at another time. -/
inductive Course (verdict : Nat → Verdict) (rested : Nat → Time → Time → Prop) (budget : Int) :
    List (Trial Time) → Stage Time → Prop where
  | fresh : Course verdict rested budget [] (.ready 0 none)
  | began {trials made since now} (course : Course verdict rested budget trials (.ready made since))
      (waited : ∀ failed, since = some failed → rested made failed now) :
      Course verdict rested budget (trials ++ [.began (made + 1) now]) (.trying (made + 1))
  | ended {trials attempt} (now : Time)
      (course : Course verdict rested budget trials (.trying attempt)) :
      Course verdict rested budget (trials ++ [.ended attempt now]) (.tried attempt now)
  | again {trials attempt instant error}
      (course : Course verdict rested budget trials (.tried attempt instant))
      (failed : verdict attempt = .failure error) (left : attempt < budget) :
      Course verdict rested budget trials (.ready attempt (some instant))
  | succeeded {trials attempt instant result}
      (course : Course verdict rested budget trials (.tried attempt instant))
      (success : verdict attempt = .success result) :
      Course verdict rested budget trials (.finished attempt)
  | gaveUp {trials attempt instant error}
      (course : Course verdict rested budget trials (.tried attempt instant))
      (failed : verdict attempt = .failure error) (spent : ¬ attempt < budget) :
      Course verdict rested budget trials (.finished attempt)

namespace Course

variable {verdict : Nat → Verdict} {rested : Nat → Time → Time → Prop} {budget : Int}
  {trials : List (Trial Time)} {stage : Stage Time}

/-- The attempts are numbered from one. -/
theorem begun_eq (course : Course verdict rested budget trials stage) :
    begun trials = List.range' 1 stage.made := by
  induction course with
  | fresh => rfl
  | began course waited ih => simp [ih, Stage.made, List.range'_concat, Nat.add_comm]
  | ended now course ih => simp [ih, Stage.made]
  | again course failed left ih => exact ih
  | succeeded course success ih => exact ih
  | gaveUp course failed spent ih => exact ih

/-- Only a loop that just begins has made no attempt. -/
theorem positive (course : Course verdict rested budget trials stage)
    (underway : ∀ since, stage ≠ .ready 0 since) : 1 ≤ stage.made := by
  induction course with
  | fresh => exact (underway none rfl).elim
  | began => exact Nat.succ_pos _
  | ended now course ih => exact ih (by simp)
  | again course failed left ih => exact ih (by simp)
  | succeeded course success ih => exact ih (by simp)
  | gaveUp course failed spent ih => exact ih (by simp)

/-- The attempts end in their order. -/
theorem closed_eq (course : Course verdict rested budget trials stage) :
    closed trials = List.range' 1 stage.done := by
  induction course with
  | fresh => rfl
  | began course waited ih => simp [ih, Stage.done]
  | ended now course ih =>
      obtain ⟨earlier, rfl⟩ := Nat.exists_eq_add_of_le' (course.positive (by simp))
      simp [ih, Stage.done, List.range'_concat, Nat.add_comm]
  | again course failed left ih => exact ih
  | succeeded course success ih => exact ih
  | gaveUp course failed spent ih => exact ih

theorem mem_begun_iff (course : Course verdict rested budget trials stage) {attempt : Nat} :
    (∃ instant, .began attempt instant ∈ trials) ↔ 1 ≤ attempt ∧ attempt ≤ stage.made := by
  rw [← mem_begun, course.begun_eq, List.mem_range'_1]
  omega

theorem mem_closed_iff (course : Course verdict rested budget trials stage) {attempt : Nat} :
    (∃ instant, .ended attempt instant ∈ trials) ↔ 1 ≤ attempt ∧ attempt ≤ stage.done := by
  rw [← mem_closed, course.closed_eq, List.mem_range'_1]
  omega

/-- An attempt that began and did not end yet is the one the loop is at. -/
theorem underway (course : Course verdict rested budget trials stage) {attempt : Nat} {start : Time}
    (began : .began attempt start ∈ trials) (unended : ∀ ended, .ended attempt ended ∉ trials) :
    stage.done < attempt ∧ attempt ≤ stage.made := by
  obtain ⟨positive, within⟩ := course.mem_begun_iff.mp ⟨start, began⟩
  refine ⟨Nat.lt_of_not_le fun done => ?_, within⟩
  obtain ⟨ended, member⟩ := course.mem_closed_iff.mpr ⟨positive, done⟩
  exact unended ended member

/-- An attempt that began and did not end is the one that the loop is at. -/
theorem trying_eq {current attempt : Nat} {instant : Time}
    (course : Course verdict rested budget trials (.trying current))
    (began : .began attempt instant ∈ trials) (unended : ∀ ended, .ended attempt ended ∉ trials) :
    attempt = current := by
  obtain ⟨later, within⟩ := course.underway began unended
  simp only [Stage.done, Stage.made] at later within
  omega

/-- After the last failure another attempt is left. -/
theorem ready {made : Nat} {since : Option Time}
    (course : Course verdict rested budget trials (.ready made since)) :
    made = 0 ∨ made < budget ∧ ∃ error, verdict made = .failure error := by
  cases course with
  | fresh => exact .inl rfl
  | again course failed left => exact .inr ⟨left, _, failed⟩

/-- All attempts but the last one failed. -/
theorem failed_before (course : Course verdict rested budget trials stage) :
    ∀ attempt, 1 ≤ attempt → attempt < stage.made → ∃ error, verdict attempt = .failure error := by
  induction course with
  | fresh => exact fun attempt positive within => absurd within (Nat.not_lt_zero attempt)
  | @began trials made since now course waited ih =>
      intro attempt positive within
      rcases Nat.lt_or_eq_of_le (Nat.le_of_lt_succ within) with earlier | rfl
      · exact ih attempt positive earlier
      · rcases course.ready with none | ⟨-, failed⟩
        · omega
        · exact failed
  | ended now course ih => exact ih
  | again course failed left ih => exact ih
  | succeeded course success ih => exact ih
  | gaveUp course failed spent ih => exact ih

/-- No more attempts are made than the budget allows, apart from the first one. -/
theorem within_budget (course : Course verdict rested budget trials stage) :
    (stage.made : Int) ≤ max 1 budget := by
  induction course with
  | fresh => simp only [Stage.made]; omega
  | began course waited ih =>
      simp only [Stage.made]
      rcases course.ready with none | ⟨left, -⟩ <;> omega
  | ended now course ih => exact ih
  | again course failed left ih => exact ih
  | succeeded course success ih => exact ih
  | gaveUp course failed spent ih => exact ih

/-- The time of the last end is kept for the delay. -/
theorem since_eq {made : Nat} {since : Option Time}
    (course : Course verdict rested budget trials (.ready made since)) {instant : Time}
    (ended : .ended made instant ∈ trials) : since = some instant := by
  cases course with
  | fresh => cases ended
  | again course failed left =>
      cases course with
      | @ended trials _ now course =>
          rcases List.mem_append.mp ended with earlier | last
          · have done := course.mem_closed_iff.mp ⟨_, earlier⟩
            simp only [Stage.done] at done
            omega
          · simp_all

/-- No attempt begins before the delay after the one before it is over. -/
theorem spaced (course : Course verdict rested budget trials stage) {attempt : Nat}
    {failed again : Time} (ended : .ended attempt failed ∈ trials)
    (began : .began (attempt + 1) again ∈ trials) : rested attempt failed again := by
  induction course with
  | fresh => cases ended
  | @began trials made since now course waited ih =>
      have before : .ended attempt failed ∈ trials := by simpa using ended
      rcases List.mem_append.mp began with earlier | last
      · exact ih before earlier
      · obtain ⟨same, rfl⟩ : attempt = made ∧ again = now := by simpa using last
        subst same
        exact waited failed (course.since_eq before)
  | @ended trials current now course ih =>
      have before : .began (attempt + 1) again ∈ trials := by simpa using began
      rcases List.mem_append.mp ended with earlier | last
      · exact ih earlier before
      · obtain ⟨rfl, -⟩ : attempt = current ∧ failed = now := by simpa using last
        have made := course.mem_begun_iff.mp ⟨_, before⟩
        simp only [Stage.made] at made
        omega
  | again course failed left ih => exact ih ended began
  | succeeded course success ih => exact ih ended began
  | gaveUp course failed spent ih => exact ih ended began

/-- The loop ends with its last attempt, which succeeded or used up the budget. -/
theorem finished_cases {attempt : Nat}
    (course : Course verdict rested budget trials (.finished attempt)) :
    (∃ result, verdict attempt = .success result) ∨
      (∃ error, verdict attempt = .failure error) ∧ ¬ attempt < budget := by
  cases course with
  | succeeded course success => exact .inl ⟨_, success⟩
  | gaveUp course failed spent => exact .inr ⟨⟨_, failed⟩, spent⟩

/-- The loop is over after an attempt that succeeded or was the last one that was allowed, unless
nothing was made of that attempt yet. -/
theorem finished_of_ended (course : Course verdict rested budget trials stage)
    (untried : ∀ attempt instant, stage ≠ .tried attempt instant) {instant : Time}
    (ended : .ended stage.made instant ∈ trials)
    (last : (∃ result, verdict stage.made = .success result) ∨ (stage.made : Int) = max 1 budget) :
    stage = .finished stage.made := by
  obtain ⟨positive, done⟩ := course.mem_closed_iff.mp ⟨_, ended⟩
  cases stage with
  | ready made since =>
      rcases course.ready with rfl | ⟨left, error, failure⟩
      · exact absurd positive (Nat.not_succ_le_zero 0)
      · rcases last with ⟨result, success⟩ | spent
        · cases failure.symm.trans success
        · simp only [Stage.made] at spent
          omega
  | trying attempt =>
      simp only [Stage.made, Stage.done] at positive done
      omega
  | tried attempt instant => exact (untried attempt instant rfl).elim
  | finished attempt => rfl

theorem finished_eq {attempt : Nat}
    (course : Course verdict rested budget trials (.finished attempt)) :
    attempt = lastAttempt verdict budget := by
  have positive : 1 ≤ attempt := course.positive (by simp)
  have within := course.within_budget
  simp only [Stage.made] at within
  refine (lastFrom_eq positive course.failed_before (by omega) ?_).symm
  rcases course.finished_cases with success | ⟨-, spent⟩
  · exact .inl success
  · exact .inr (by omega)

end Course

section Shows

variable [Preorder Time]

/-- The delay after an attempt that ended at a time is over. -/
def Rested (after : Time → Number → Except Failure Time) (config : QueueConfig) (attempt : Nat)
    (failed now : Time) : Prop :=
  ∃ seconds due, retryDelay config attempt = .ok seconds ∧ after failed seconds = .ok due ∧
    due ≤ now

/-- The standing of a job shows where its loop is. -/
def Shows (verdict : Nat → Verdict) (after : Time → Number → Except Failure Time)
    (config : QueueConfig) (now : Time) (job : Job) (stage : Stage Time) : Place Time → Prop
  | .line => ∃ since, stage = .ready job.attempts since ∧
    ∀ failed, since = some failed → Rested after config job.attempts failed now
  | .slot => job.status = .running ∧ stage = .trying job.attempts
  | .delay due => ∃ failed seconds, stage = .ready job.attempts (some failed) ∧
    retryDelay config job.attempts = .ok seconds ∧ after failed seconds = .ok due
  | .aside =>
    match job.status with
    | .completed => stage = .finished job.attempts ∧ verdict job.attempts = .success job.result ∧
      job.error = none
    | .failed => ∃ error, stage = .finished job.attempts ∧
      verdict job.attempts = .failure error ∧ job.error = some (error.getD "Unknown error")
    | .pending | .running => ∃ since, stage = .ready job.attempts since
    | .cancelled => False

variable {verdict : Nat → Verdict} {after : Time → Number → Except Failure Time}
  {config : QueueConfig} {now later : Time} {id : JobId}

theorem Rested.mono {attempt : Nat} {failed : Time}
    (rested : Rested after config attempt failed now) (order : now ≤ later) :
    Rested after config attempt failed later := by
  obtain ⟨seconds, due, delay, counted, passed⟩ := rested
  exact ⟨seconds, due, delay, counted, le_trans passed order⟩

theorem Shows.mono {job : Job} {stage : Stage Time} {place : Place Time}
    (shown : Shows verdict after config now job stage place) (order : now ≤ later) :
    Shows verdict after config later job stage place := by
  cases place with
  | line =>
      obtain ⟨since, ready, rested⟩ := shown
      exact ⟨since, ready, fun failed last => (rested failed last).mono order⟩
  | slot | delay | aside => exact shown

/-- A job is tried in its slot only, and its record tells how its loop ended. -/
theorem Shows.cases {job : Job} {stage : Stage Time} {place : Place Time}
    (shown : Shows verdict after config now job stage place)
    (fits : Fits id (some (job, place))) :
    (place = .slot ∧ job.status = .running ∧ stage = .trying job.attempts) ∨
      (job.status.isTerminal = false ∧ ∃ since, stage = .ready job.attempts since) ∨
      (job.status = .completed ∧ stage = .finished job.attempts ∧
        verdict job.attempts = .success job.result ∧ job.error = none) ∨
      (job.status = .failed ∧ stage = .finished job.attempts ∧
        ∃ error, verdict job.attempts = .failure error ∧
          job.error = some (error.getD "Unknown error")) := by
  cases place with
  | slot => exact .inl ⟨rfl, shown⟩
  | line =>
      obtain ⟨since, ready, -⟩ := shown
      exact .inr (.inl ⟨by rw [fits.2.1]; rfl, since, ready⟩)
  | delay due =>
      obtain ⟨failed, -, ready, -⟩ := shown
      exact .inr (.inl ⟨by rw [fits.2.1]; rfl, some failed, ready⟩)
  | aside =>
      cases status : job.status with
      | pending | running =>
          simp only [Shows, status] at shown
          exact .inr (.inl ⟨rfl, shown⟩)
      | completed =>
          simp only [Shows, status] at shown
          exact .inr (.inr (.inl ⟨rfl, shown⟩))
      | failed =>
          simp only [Shows, status] at shown
          obtain ⟨error, finished, failure, noted⟩ := shown
          exact .inr (.inr (.inr ⟨rfl, finished, error, failure, noted⟩))
      | cancelled => simp only [Shows, status] at shown

end Shows

/-- What the plain retry loop makes of a job, by the attempts of the job up to now. -/
structure PlainLoop (verdict : Nat → Verdict) (rested : Nat → Time → Time → Prop) (budget : Int)
    (trials : List (Trial Time)) (job : Job) : Prop where
  /-- The attempts are numbered from one, and the job counts them. -/
  numbered : begun trials = List.range' 1 job.attempts
  /-- There are no more attempts than the budget allows, apart from the first one. -/
  bounded : (job.attempts : Int) ≤ max 1 budget
  /-- All attempts but the last one have ended, and failed. -/
  failed_before : ∀ attempt, 1 ≤ attempt → attempt < job.attempts →
    ∃ error ended, verdict attempt = .failure error ∧ .ended attempt ended ∈ trials
  /-- The job is completed when its last attempt has ended with success. -/
  completed_iff : job.status = .completed ↔
    ∃ result ended, verdict job.attempts = .success result ∧ .ended job.attempts ended ∈ trials
  /-- A completed job has the result of its last attempt, and no error. -/
  completed : job.status = .completed →
    verdict job.attempts = .success job.result ∧ job.error = none
  /-- The job is failed when the last attempt that its budget allows has ended, and failed. -/
  failed_iff : job.status = .failed ↔ (job.attempts : Int) = max 1 budget ∧
    ∃ error ended, verdict job.attempts = .failure error ∧ .ended job.attempts ended ∈ trials
  /-- A failed job has the error of its last attempt. -/
  failed : job.status = .failed →
    ∃ error, verdict job.attempts = .failure error ∧ job.error = some (error.getD "Unknown error")
  /-- No attempt begins before the delay after the one before it is over. -/
  spaced : ∀ attempt failed again, .ended attempt failed ∈ trials →
    .began (attempt + 1) again ∈ trials → rested attempt failed again
  /-- A job that came to its end made as many attempts as the loop does. -/
  fate : job.status.isTerminal → job.attempts = lastAttempt verdict budget ∧
    (job.status = .completed ∨ job.status = .failed)

section Fate

variable {verdict : Nat → Verdict} {rested again : Nat → Time → Time → Prop} {budget : Int}
  {trials others : List (Trial Time)} {job other : Job}

theorem PlainLoop.ending (loop : PlainLoop verdict rested budget trials job)
    (done : job.status.isTerminal) :
    (job.status = .completed ∧ verdict job.attempts = .success job.result ∧ job.error = none) ∨
      (job.status = .failed ∧ ∃ error, verdict job.attempts = .failure error ∧
        job.error = some (error.getD "Unknown error")) := by
  rcases (loop.fate done).2 with completed | failed
  · exact .inl ⟨completed, loop.completed completed⟩
  · exact .inr ⟨failed, loop.failed failed⟩

/-- The verdicts and the budget decide how a job ends. -/
theorem PlainLoop.same_fate (loop : PlainLoop verdict rested budget trials job)
    (twin : PlainLoop verdict again budget others other) (done : job.status.isTerminal)
    (ended : other.status.isTerminal) :
    other.status = job.status ∧ other.attempts = job.attempts ∧ other.error = job.error ∧
      (job.status = .completed → other.result = job.result) := by
  have same : other.attempts = job.attempts := (twin.fate ended).1.trans (loop.fate done).1.symm
  have ending := twin.ending ended
  rw [same] at ending
  rcases loop.ending done with ⟨completed, success, clean⟩ | ⟨failed, error, failure, noted⟩
  · rcases ending with ⟨status, result, empty⟩ | ⟨-, error, failure, -⟩
    · refine ⟨status.trans completed.symm, same, empty.trans clean.symm, fun _ => ?_⟩
      injection result.symm.trans success
    · cases success.symm.trans failure
  · rcases ending with ⟨-, success, -⟩ | ⟨status, cause, reason, text⟩
    · cases failure.symm.trans success
    · cases failure.symm.trans reason
      refine ⟨status.trans failed.symm, same, text.trans noted.symm, fun completed => ?_⟩
      cases failed.symm.trans completed

end Fate

section PlainLoop

variable [Preorder Time] {after : Time → Number → Except Failure Time} {config : QueueConfig}
  {now : Time} {id : JobId} {job : Job} {place : Place Time} {budget : Int}
  {trials : List (Trial Time)} {stage : Stage Time} {verdict : Nat → Verdict}

theorem Shows.made_eq (shown : Shows verdict after config now job stage place)
    (fits : Fits id (some (job, place))) : stage.made = job.attempts := by
  rcases shown.cases fits with ⟨-, -, rfl⟩ | ⟨-, since, rfl⟩ | ⟨-, rfl, -⟩ | ⟨-, rfl, -⟩ <;> rfl

/-- What is made of an attempt is made at once. -/
theorem Shows.untried (shown : Shows verdict after config now job stage place)
    (fits : Fits id (some (job, place))) (attempt : Nat) (instant : Time) :
    stage ≠ .tried attempt instant := by
  rcases shown.cases fits with ⟨-, -, rfl⟩ | ⟨-, since, rfl⟩ | ⟨-, rfl, -⟩ | ⟨-, rfl, -⟩ <;> simp

theorem Shows.finished_iff (shown : Shows verdict after config now job stage place)
    (fits : Fits id (some (job, place))) :
    stage = .finished job.attempts ↔ job.status.isTerminal := by
  rcases shown.cases fits with ⟨-, running, rfl⟩ | ⟨going, since, rfl⟩ | ⟨completed, rfl, -⟩ |
    ⟨failed, rfl, -⟩
  · simp [running, JobStatus.isTerminal]
  · simp [going]
  · simp [completed, JobStatus.isTerminal]
  · simp [failed, JobStatus.isTerminal]

theorem Shows.ending (shown : Shows verdict after config now job stage place)
    (fits : Fits id (some (job, place))) (terminal : job.status.isTerminal) :
    (job.status = .completed ∧ verdict job.attempts = .success job.result ∧ job.error = none) ∨
      (job.status = .failed ∧ ∃ error, verdict job.attempts = .failure error ∧
        job.error = some (error.getD "Unknown error")) := by
  rcases shown.cases fits with ⟨-, running, -⟩ | ⟨going, -⟩ | ⟨completed, -, success⟩ |
    ⟨failed, -, failure⟩
  · simp [running, JobStatus.isTerminal] at terminal
  · simp [going] at terminal
  · exact .inl ⟨completed, success⟩
  · exact .inr ⟨failed, failure⟩

/-- A job is over when the loop is, which is after a success and after the last failure. -/
theorem Shows.terminal_iff (shown : Shows verdict after config now job stage place)
    (fits : Fits id (some (job, place)))
    (course : Course verdict (Rested after config) budget trials stage) :
    job.status.isTerminal ↔ (∃ ended, .ended job.attempts ended ∈ trials) ∧
      ((∃ result, verdict job.attempts = .success result) ∨
        (job.attempts : Int) = max 1 budget) := by
  rw [← shown.finished_iff fits]
  have made := shown.made_eq fits
  constructor
  · rintro rfl
    have positive : 1 ≤ job.attempts := course.positive (by simp)
    have within := course.within_budget
    simp only [Stage.made] at within
    refine ⟨course.mem_closed_iff.mpr ⟨positive, Nat.le_refl _⟩, ?_⟩
    rcases course.finished_cases with success | ⟨-, spent⟩
    · exact .inl success
    · exact .inr (by omega)
  · rintro ⟨⟨ended, member⟩, last⟩
    rw [← made] at member last ⊢
    exact course.finished_of_ended (shown.untried fits) member last

/-- Where its standing shows where the loop of a job is, the job has what the loop makes of it. -/
theorem Shows.plainLoop (shown : Shows verdict after config now job stage place)
    (fits : Fits id (some (job, place)))
    (course : Course verdict (Rested after config) budget trials stage) :
    PlainLoop verdict (Rested after config) budget trials job := by
  have made := shown.made_eq fits
  have terminal := shown.terminal_iff fits course
  have completes : job.status = .completed → job.status.isTerminal := fun same => same ▸ rfl
  have fails : job.status = .failed → job.status.isTerminal := fun same => same ▸ rfl
  have ends : job.status.isTerminal → _ := shown.ending fits
  constructor
  case numbered => exact made ▸ course.begun_eq
  case bounded => exact made ▸ course.within_budget
  case failed_before =>
    intro attempt positive earlier
    rw [← made] at earlier
    obtain ⟨error, failure⟩ := course.failed_before attempt positive earlier
    have done : attempt ≤ stage.done := Nat.le_of_lt_succ (Nat.lt_of_lt_of_le earlier stage.made_le)
    obtain ⟨ended, member⟩ := course.mem_closed_iff.mpr ⟨positive, done⟩
    exact ⟨error, ended, failure, member⟩
  case completed =>
    intro completed
    rcases ends (completes completed) with ⟨-, success⟩ | ⟨failed, -⟩
    · exact success
    · cases completed.symm.trans failed
  case failed =>
    intro failed
    rcases ends (fails failed) with ⟨completed, -⟩ | ⟨-, failure⟩
    · cases completed.symm.trans failed
    · exact failure
  case completed_iff =>
    constructor
    · intro completed
      obtain ⟨⟨ended, member⟩, -⟩ := terminal.mp (completes completed)
      rcases ends (completes completed) with ⟨-, success, -⟩ | ⟨failed, -⟩
      · exact ⟨_, ended, success, member⟩
      · cases completed.symm.trans failed
    · rintro ⟨result, ended, success, member⟩
      rcases ends (terminal.mpr ⟨⟨ended, member⟩, .inl ⟨result, success⟩⟩) with
        ⟨completed, -⟩ | ⟨-, error, failure, -⟩
      · exact completed
      · cases success.symm.trans failure
  case failed_iff =>
    constructor
    · intro failed
      obtain ⟨⟨ended, member⟩, last⟩ := terminal.mp (fails failed)
      rcases ends (fails failed) with ⟨completed, -⟩ | ⟨-, error, failure, -⟩
      · cases completed.symm.trans failed
      · rcases last with ⟨result, success⟩ | spent
        · cases success.symm.trans failure
        · exact ⟨spent, error, ended, failure, member⟩
    · rintro ⟨spent, error, ended, failure, member⟩
      rcases ends (terminal.mpr ⟨⟨ended, member⟩, .inr spent⟩) with
        ⟨-, success, -⟩ | ⟨failed, -⟩
      · cases success.symm.trans failure
      · exact failed
  case spaced => exact fun attempt failed again => course.spaced
  case fate =>
    intro ended
    obtain rfl := (shown.finished_iff fits).mpr ended
    refine ⟨course.finished_eq, ?_⟩
    rcases ends ended with ⟨completed, -⟩ | ⟨failed, -⟩
    · exact .inl completed
    · exact .inr failed

end PlainLoop

end Orchestra.Queue
