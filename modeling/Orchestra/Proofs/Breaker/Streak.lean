import Mathlib.Data.List.DropRight
import Orchestra.Proofs.Breaker.Independence
import Orchestra.Proofs.Breaker.Probe

/-!
Failures in a row.

While the breaker of a host is closed its entry counts the failures since the last success or reset
of the host, and the failure that makes the count reach the threshold opens it.
-/

namespace Orchestra.Breaker

variable {Time : Type} {breaker : Breaker Time} {host : String} {entry : BreakerEntry Time}
  {count : Nat}

/-- The operation ends a row of failures of a host: a call succeeded, or the host is forgotten. -/
def Operation.relieves (host : String) : Operation Time → Bool
  | .succeed other => other == host
  | .reset target => Operation.concerns host (.reset target : Operation Time)
  | .check .. | .fail .. => false

/-- When a call of a host failed, where that is what the operation reports. -/
def Operation.failure? (host : String) : Operation Time → Option Time
  | .fail other now => if other = host then some now else none
  | .check .. | .succeed _ | .reset _ => none

/-- The number of failures of a host since its last success or reset. -/
def streak (host : String) (operations : List (Operation Time)) : Nat :=
  (operations.rtakeWhile fun operation => !operation.relieves host).countP fun operation =>
    (operation.failure? host).isSome

theorem streak_concat (host : String) (operations : List (Operation Time))
    (operation : Operation Time) :
    streak host (operations ++ [operation]) =
      if operation.relieves host then 0
      else streak host operations + if (operation.failure? host).isSome then 1 else 0 := by
  unfold streak
  rw [List.rtakeWhile_concat]
  cases relieved : operation.relieves host with
  | true => simp
  | false => simp [List.countP_append, List.countP_cons]

/-- Operations on other hosts neither end a row of failures nor make it longer. -/
theorem Operation.relieves_of_apart {operation : Operation Time}
    (apart : operation.concerns host = false) :
    operation.relieves host = false ∧ operation.failure? host = none := by
  cases operation with
  | check => exact ⟨rfl, rfl⟩
  | succeed => exact ⟨apart, rfl⟩
  | fail => exact ⟨rfl, if_neg (ne_of_beq_false apart)⟩
  | reset => exact ⟨apart, rfl⟩

/-- The breaker of the host is closed, or the host has no entry. -/
def Shut (breaker : Breaker Time) (host : String) : Prop :=
  ∀ entry, breaker.entry? host = some entry → entry.state = .closed

def Open (breaker : Breaker Time) (host : String) : Prop :=
  ∃ entry, breaker.entry? host = some entry ∧ entry.state = .opened

theorem Shut.not_open (shut : Shut breaker host) : ¬ Open breaker host := by
  rintro ⟨entry, listed, opened⟩
  simp [shut entry listed] at opened

/-- The first failure of a host makes its entry. -/
theorem entry?_recordFailure_missing (missing : breaker.entry? host = none) (now : Time) :
    entry? (breaker.recordFailure host now) host = some {
      failures := 1
      lastFailure := now
      state := if breaker.threshold ≤ 1 then .opened else .closed
      probeStarted := none } := by
  simp [recordFailure, missing]

/-- A success drops the entry of a probed host, and sets the count of any other to zero. -/
theorem entry?_recordSuccess_self (breaker : Breaker Time) (host : String) :
    entry? (breaker.recordSuccess host) host = ( breaker.entry? host).bind fun entry =>
      if entry.state = .halfOpen then none else some { entry with failures := 0 } := by
  unfold recordSuccess
  cases listed : breaker.entry? host with
  | none => exact listed
  | some entry =>
      dsimp only [Option.bind_some]
      split
      · exact entry?_drop_self
      · exact entry?_put_self

/-- An entry has counted the failures in a row as long as the breaker is closed, and there is none
without a failure. -/
structure Tallied (threshold : Int) (count : Nat) (entry : Option (BreakerEntry Time)) : Prop where
  absent : entry = none → count = 0
  closed : ∀ found ∈ entry, found.state = .closed →
    found.failures = count ∧ (count : Int) < threshold

theorem tallied_none (threshold : Int) : Tallied threshold 0 (none : Option (BreakerEntry Time)) :=
  ⟨fun _ => rfl, nofun⟩

/-- An entry that is not closed counts no failures in a row. -/
theorem Tallied.unclosed {threshold : Int} (unclosed : entry.state ≠ .closed) :
    Tallied threshold count (some entry) := by
  refine ⟨nofun, ?_⟩
  rintro _ ⟨⟩ closed
  exact (unclosed closed).elim

theorem Tallied.recordFailure (tallied : Tallied breaker.threshold count ( breaker.entry? host))
    (now : Time) :
    Tallied breaker.threshold (count + 1) ( entry? (breaker.recordFailure host now) host) := by
  cases listed : breaker.entry? host with
  | none =>
      obtain rfl := tallied.absent listed
      rw [entry?_recordFailure_missing listed]
      refine ⟨nofun, ?_⟩
      rintro _ ⟨⟩ closed
      exact ⟨rfl, by simpa using closed⟩
  | some entry =>
      rw [entry?_recordFailure listed]
      refine ⟨nofun, ?_⟩
      rintro _ ⟨⟩ closed
      obtain ⟨unreached, before⟩ :
          ¬ breaker.threshold ≤ entry.failures + 1 ∧ entry.state = .closed := by
        by_cases reached : breaker.threshold ≤ entry.failures + 1 <;> simp_all
      obtain ⟨rfl, -⟩ := tallied.closed entry listed before
      exact ⟨rfl, Int.not_le.mp unreached⟩

theorem tallied_recordSuccess (positive : 1 ≤ breaker.threshold) (host : String) :
    Tallied breaker.threshold 0 ( entry? (breaker.recordSuccess host) host) := by
  refine ⟨fun _ => rfl, fun found listed _ => ?_⟩
  rw [entry?_recordSuccess_self] at listed
  obtain ⟨entry, -, changed⟩ := Option.bind_eq_some_iff.mp listed
  split at changed
  · cases changed
  · obtain rfl := Option.some.inj changed
    exact ⟨rfl, Int.lt_of_lt_of_le Int.zero_lt_one positive⟩

/-- A success makes no entry. -/
theorem entry?_recordSuccess_missing {other : String} (missing : breaker.entry? other = none)
    (host : String) : entry? (breaker.recordSuccess host) other = none := by
  by_cases own : other = host
  · subst own
    rw [entry?_recordSuccess_self, missing]
    rfl
  · rw [entry?_recordSuccess_other own, missing]

/-- A failure opens a closed breaker exactly when it makes the row as long as the threshold. -/
theorem open_recordFailure_iff (positive : 1 ≤ breaker.threshold) (shut : Shut breaker host)
    (tallied : Tallied breaker.threshold count ( breaker.entry? host)) (now : Time) :
    Open (breaker.recordFailure host now) host ↔ ((count + 1 : Nat) : Int) = breaker.threshold := by
  cases listed : breaker.entry? host with
  | none =>
      obtain rfl := tallied.absent listed
      simp only [Open, entry?_recordFailure_missing listed, Option.some.injEq, exists_eq_left']
      split <;> simp_all <;> omega
  | some entry =>
      have closed := shut entry listed
      obtain ⟨rfl, below⟩ := tallied.closed entry listed closed
      simp only [Open, entry?_recordFailure listed, Option.some.injEq, exists_eq_left', closed]
      split <;> simp_all <;> omega

section Run

variable [Sub Time] [LT Time] [DecidableLT Time] [LE Time] [DecidableLE Time]

theorem Tallied.check (tallied : Tallied breaker.threshold count ( breaker.entry? host))
    (now : Time) : Tallied breaker.threshold count ( entry? (breaker.check host now).2 host) := by
  rcases breaker.check_cases host now with same | ⟨entry, listed, unclosed, probed⟩
  · rwa [same]
  · rw [probed]
    exact (congrArg _ entry?_put_self).mpr (.unclosed (by simp))

/-- The entry of a host and its row of failures keep step. -/
theorem Tallied.after {threshold : Int} (positive : 1 ≤ threshold)
    (same : breaker.threshold = threshold) {operations : List (Operation Time)}
    (tallied : Tallied threshold (streak host operations) ( breaker.entry? host))
    (operation : Operation Time) :
    Tallied threshold (streak host (operations ++ [operation]))
      ( entry? (breaker.after operation) host) := by
  subst same
  rw [streak_concat]
  cases concerned : operation.concerns host with
  | false =>
      obtain ⟨unrelieved, unfailed⟩ := Operation.relieves_of_apart concerned
      simpa [unrelieved, unfailed, entry?_after_other concerned] using tallied
  | true =>
      obtain ⟨now, rfl⟩ | rfl | ⟨now, rfl⟩ | ⟨target, rfl⟩ :=
        Operation.cases_of_concerns concerned
      · exact tallied.check now
      · simpa [Operation.relieves] using tallied_recordSuccess positive host
      · simpa [Operation.relieves, Operation.failure?] using tallied.recordFailure now
      · have forgotten : entry? (breaker.reset target) host = none := entry?_reset_self concerned
        simpa [Operation.relieves, concerned, forgotten] using tallied_none breaker.threshold

theorem tallied_run {threshold : Int} (positive : 1 ≤ threshold) (recovery : Time) (host : String)
    (operations : List (Operation Time)) :
    Tallied threshold (streak host operations)
      ( entry? (run operations (empty threshold recovery)) host) := by
  induction operations using List.reverseRecOn with
  | nil => exact tallied_none threshold
  | append_singleton past operation ih =>
      rw [run_append]
      exact ih.after positive (run_threshold ..) operation

theorem check_of_shut (shut : Shut breaker host) (now : Time) :
    breaker.check host now = (none, breaker) := by
  cases listed : breaker.entry? host with
  | none => simp [check, listed]
  | some entry => simp [check, listed, shut entry listed]

/-- Only a failure of a host ends that its breaker is closed. -/
theorem Shut.after (shut : Shut breaker host) {operation : Operation Time}
    (unfailed : operation.failure? host = none) : Shut (breaker.after operation) host := by
  cases concerned : operation.concerns host with
  | false =>
      unfold Shut
      rw [entry?_after_other concerned]
      exact shut
  | true =>
      obtain ⟨now, rfl⟩ | rfl | ⟨now, rfl⟩ | ⟨target, rfl⟩ :=
        Operation.cases_of_concerns concerned
      · rw [after_check, check_of_shut shut]
        exact shut
      · intro last listed
        rw [after_succeed, entry?_recordSuccess_self] at listed
        obtain ⟨entry, before, changed⟩ := Option.bind_eq_some_iff.mp listed
        have closed := shut entry before
        obtain rfl : { entry with failures := 0 } = last := by simpa [closed] using changed
        exact closed
      · simp [Operation.failure?] at unfailed
      · intro last listed
        cases (entry?_reset_self concerned).symm.trans listed

/-- A closed breaker is opened by the failure that makes the row as long as the threshold, and by
nothing else. -/
theorem open_after_iff {threshold : Int} (positive : 1 ≤ threshold)
    (same : breaker.threshold = threshold) {operations : List (Operation Time)}
    (tallied : Tallied threshold (streak host operations) ( breaker.entry? host))
    (shut : Shut breaker host) (operation : Operation Time) :
    Open (breaker.after operation) host ↔
      (operation.failure? host).isSome ∧
        (streak host (operations ++ [operation]) : Int) = threshold := by
  subst same
  rw [streak_concat]
  cases failed : operation.failure? host with
  | none => exact iff_of_false (shut.after failed).not_open (by simp)
  | some now =>
      obtain rfl : operation = .fail host now := by
        cases operation <;> simp_all [Operation.failure?]
      simpa [Operation.relieves] using open_recordFailure_iff positive shut tallied now

/-- A check makes no entry and drops none. -/
theorem isSome_entry?_check (breaker : Breaker Time) (host other : String) (now : Time) :
    ( entry? (breaker.check host now).2 other).isSome = ( breaker.entry? other).isSome := by
  rcases breaker.check_cases host now with same | ⟨entry, listed, -, probed⟩
  · rw [same]
  · rw [probed]
    by_cases own : other = host
    · subst own
      simp [admitProbe, listed]
    · rw [admitProbe, entry?_put_other own]

/-- An entry is dropped only by what ends a row of failures. -/
theorem relieves_of_dropped {operation : Operation Time} (listed : ( breaker.entry? host).isSome)
    (dropped : entry? (breaker.after operation) host = none) : operation.relieves host := by
  cases concerned : operation.concerns host with
  | false =>
      rw [entry?_after_other concerned] at dropped
      simp [dropped] at listed
  | true =>
      obtain ⟨now, rfl⟩ | rfl | ⟨now, rfl⟩ | ⟨target, rfl⟩ :=
        Operation.cases_of_concerns concerned
      · have kept := breaker.isSome_entry?_check host host now
        rw [after_check] at dropped
        simp [dropped, listed] at kept
      · exact concerned
      · cases entry?_put_self.symm.trans dropped
      · exact concerned

/-- In every state of a run a closed breaker has counted the failures of its host since the last
success or reset, which are fewer than the threshold. It opens exactly when a failure makes them as
many as the threshold, and until then no call is rejected. Checks and successes make no entry, and
only a success or a reset drops one. -/
theorem opens_at_threshold {threshold : Int} (positive : 1 ≤ threshold) (recovery : Time)
    (operations : List (Operation Time)) (host : String) :
    let breaker := run operations (empty threshold recovery)
    (∀ entry, breaker.entry? host = some entry → entry.state = .closed →
      entry.failures = streak host operations ∧ (streak host operations : Int) < threshold) ∧
    (Shut breaker host →
      (∀ operation, Open (breaker.after operation) host ↔
        (operation.failure? host).isSome ∧
          (streak host (operations ++ [operation]) : Int) = threshold) ∧
      ∀ now, (breaker.check host now).1 = none) ∧
    (∀ other, breaker.entry? other = none →
      (∀ now, entry? (breaker.check host now).2 other = none) ∧
        entry? (breaker.recordSuccess host) other = none) ∧
    ∀ operation, ( breaker.entry? host).isSome → entry? (breaker.after operation) host = none →
      operation.relieves host := by
  intro breaker
  have tallied := tallied_run positive recovery host operations
  refine ⟨tallied.closed, fun shut => ⟨fun operation => ?_, fun now => ?_⟩,
    fun other missing => ⟨fun now => ?_, ?_⟩, fun _ => relieves_of_dropped⟩
  · exact open_after_iff positive (run_threshold ..) tallied shut operation
  · rw [check_of_shut shut]
  · have kept := breaker.isSome_entry?_check host other now
    simpa [missing] using kept
  · exact entry?_recordSuccess_missing missing host

/-- Two failures, a success, and again two failures, with one of another host in between. -/
def interruptedRow : List (Operation Nat) :=
  [.fail "host" 0, .fail "host" 1, .succeed "host", .fail "host" 2, .fail "other" 3,
    .fail "host" 4]

/-- A breaker for three failures is closed after them, and the third in a row opens it. -/
theorem third_in_a_row_opens :
    (1 : Int) ≤ 3 ∧ ¬ Open (run interruptedRow (empty 3 60)) "host" ∧
      Open ((run interruptedRow (empty 3 60)).after (.fail "host" 5)) "host" := by
  have listed : entry? (run interruptedRow (empty 3 60)) "host" =
      some ⟨2, 4, .closed, none⟩ := rfl
  have shut : Shut (run interruptedRow (empty 3 60)) "host" := by
    intro entry found
    obtain rfl := Option.some.inj (listed.symm.trans found)
    rfl
  obtain ⟨opens, -⟩ := (opens_at_threshold (by decide : (1 : Int) ≤ 3) 60 interruptedRow
    "host").2.1 shut
  exact ⟨by decide, shut.not_open, (opens (.fail "host" 5)).mpr (by decide)⟩

end Run

end Orchestra.Breaker
