import Mathlib.Tactic.Abel
import Orchestra.Proofs.Breaker.Spacing

/-!
The time that a rejected call is told to wait.

A rejection counts the recovery time from the last failure of the host or from the start of its
probe, whichever the state of the breaker goes by. Neither of them lies in the future, and rejected
checks leave both alone. So the time that is told runs down with the clock, and the first check that
comes when it is over is admitted.
-/

namespace Orchestra.Breaker

variable {Time : Type} [LinearOrder Time] {breaker : Breaker Time} {host : String}
  {entry : BreakerEntry Time} {now since : Time}

/-- No instant from which a recovery time is counted comes after a given one. -/
def CountsUntil (now : Time) (breaker : Breaker Time) : Prop :=
  Every (fun entry => ∀ since, pausedSince? entry = some since → since ≤ now) breaker

/-- What the clock showed before a check was not later than what it shows at the check. -/
theorem Clocked.le_check {operations : List (Operation Time)}
    (clocked : Clocked (operations ++ [.check host now])) :
    ∀ operation ∈ operations, ∀ time ∈ operation.time?, time ≤ now := by
  intro operation member time shown
  have shown : operation.time? = some time := shown
  unfold Clocked at clocked
  rw [List.filterMap_append] at clocked
  refine (List.pairwise_append.mp clocked).2.2 time ?_ now (by simp [Operation.time?])
  exact List.mem_filterMap.mpr ⟨operation, member, shown⟩

theorem countsUntil_empty (now : Time) (threshold : Int) (recovery : Time) :
    CountsUntil now (empty threshold recovery) := by
  intro host entry listed
  cases listed

theorem CountsUntil.recordSuccess (counts : CountsUntil now breaker) (host : String) :
    CountsUntil now (breaker.recordSuccess host) := by
  unfold Breaker.recordSuccess
  split
  · exact counts
  next entry listed =>
    split
    · exact Every.drop counts
    · exact Every.put counts fun since paused => counts host entry listed since paused

theorem CountsUntil.recordFailure (counts : CountsUntil now breaker) (host : String) {time : Time}
    (come : time ≤ now) : CountsUntil now (breaker.recordFailure host time) := by
  refine Every.put counts fun since paused => ?_
  -- an open breaker counts from the failure, and a half-open one has lost its probe
  unfold pausedSince? at paused
  split at paused
  · cases paused
  · obtain rfl := Option.some.inj paused
    exact come
  · cases paused

section Run

variable [AddCommGroup Time]

theorem CountsUntil.check (counts : CountsUntil now breaker) (host : String) {time : Time}
    (come : time ≤ now) : CountsUntil now (breaker.check host time).2 := by
  rcases breaker.check_cases host time with same | ⟨entry, -, -, probed⟩
  · rwa [same]
  · rw [probed]
    refine Every.put counts fun since paused => ?_
    obtain rfl := Option.some.inj paused
    exact come

theorem CountsUntil.after (counts : CountsUntil now breaker) {operation : Operation Time}
    (come : ∀ time ∈ operation.time?, time ≤ now) : CountsUntil now (breaker.after operation) := by
  cases operation with
  | check host time => exact counts.check host (come time rfl)
  | succeed host => exact counts.recordSuccess host
  | fail host time => exact counts.recordFailure host (come time rfl)
  | reset host => exact Every.reset counts host

/-- What a breaker counts from lies in the past of a clock that is never put back. -/
theorem countsUntil_run {operations : List (Operation Time)} {threshold : Int} {recovery : Time}
    (clocked : Clocked (operations ++ [.check host now])) :
    CountsUntil now (run operations (empty threshold recovery)) := by
  exact foldl_preserves Breaker.after (CountsUntil now)
    (fun operation member _ counts => counts.after (clocked.le_check operation member))
    (countsUntil_empty now threshold recovery)

/-- A breaker that counts no recovery time admits every call. -/
theorem check_of_unpaused (listed : breaker.entry? host = some entry)
    (unpaused : pausedSince? entry = none) (now : Time) : (breaker.check host now).1 = none := by
  cases state : entry.state with
  | closed => simp [check, listed, state]
  | halfOpen =>
      have unclaimed : entry.probeStarted = none := by simpa [pausedSince?, state] using unpaused
      simp [check, listed, state, unclaimed]
  | opened => simp [pausedSince?, state] at unpaused

/-- A check is rejected exactly while a recovery time is counted, and is told what is left of it. -/
theorem rejection_iff {rejection : Rejection Time} :
    (breaker.check host now).1 = some rejection ↔
      ∃ entry since, breaker.entry? host = some entry ∧ pausedSince? entry = some since ∧
        now - since < breaker.recovery ∧
        rejection = ⟨entry.failures, breaker.threshold, breaker.recovery - (now - since)⟩ := by
  constructor
  · intro rejected
    cases listed : breaker.entry? host with
    | none => simp [check, listed] at rejected
    | some entry =>
        cases paused : pausedSince? entry with
        | none => cases (check_of_unpaused listed paused now).symm.trans rejected
        | some since =>
            rw [check_of_paused listed paused] at rejected
            split at rejected
            next early => exact ⟨entry, since, rfl, paused, early, (Option.some.inj rejected).symm⟩
            next => cases rejected
  · rintro ⟨entry, since, listed, paused, early, rfl⟩
    rw [check_of_paused listed paused, if_pos early]
    rfl

/-- Rejected checks, and whatever is done on other hosts, leave the entry of a host alone. -/
theorem entry?_run_rejected (listed : breaker.entry? host = some entry)
    (paused : pausedSince? entry = some since) {during : List (Operation Time)}
    (checks : ∀ operation ∈ during, operation.concerns host →
      ∃ time, operation = .check host time)
    (early : ∀ time, .check host time ∈ during → time - since < breaker.recovery) :
    entry? (run during breaker) host = some entry := by
  refine (foldl_preserves Breaker.after
    (fun last => last.entry? host = some entry ∧ last.recovery = breaker.recovery)
    (fun operation member last kept => ?_) ⟨listed, rfl⟩).1
  refine ⟨?_, (last.after_recovery operation).trans kept.2⟩
  cases concerned : operation.concerns host with
  | false => exact (entry?_after_other concerned).trans kept.1
  | true =>
      obtain ⟨time, rfl⟩ := checks operation member concerned
      rw [after_check, check_of_paused kept.1 paused, if_pos]
      · exact kept.1
      · rw [kept.2]
        exact early time member

variable [IsOrderedAddMonoid Time]

/-- A check that is rejected is told a time above zero and not above the recovery time. Until it is
over every other check of the host is rejected, and told what is left of it; the first check after
that is admitted. Other checks and all that is done on other hosts make no difference to this. -/
theorem rejection_tells_time_left {threshold : Int} {recovery : Time}
    {past : List (Operation Time)} {rejection : Rejection Time}
    (clocked : Clocked (past ++ [.check host now]))
    (rejected : ((run past (empty threshold recovery)).check host now).1 = some rejection) :
    (0 < rejection.retryAfter ∧ rejection.retryAfter ≤ recovery) ∧
    ∀ during later,
      (∀ operation ∈ during, operation.concerns host → ∃ time, operation = .check host time) →
      Clocked (past ++ .check host now :: (during ++ [.check host later])) →
      (later < now + rejection.retryAfter →
        ((run (past ++ .check host now :: during) (empty threshold recovery)).check host later).1 =
          some { rejection with retryAfter := rejection.retryAfter - (later - now) }) ∧
      (now + rejection.retryAfter ≤ later →
        (∀ time, .check host time ∈ during → time < now + rejection.retryAfter) →
        ((run (past ++ .check host now :: during) (empty threshold recovery)).check host later).1 =
          none) := by
  obtain ⟨entry, since, listed, paused, early, told⟩ := rejection_iff.mp rejected
  have same (operations : List (Operation Time)) :
      (run operations (empty threshold recovery)).recovery = recovery := run_recovery operations _
  have limit (operations : List (Operation Time)) :
      (run operations (empty threshold recovery)).threshold = threshold :=
    run_threshold operations _
  rw [same] at early
  rw [same, limit] at told
  subst told
  dsimp only
  have begun : since ≤ now := countsUntil_run clocked host entry listed since paused
  have deadline : now + (recovery - (now - since)) = since + recovery := by abel
  rw [deadline]
  refine ⟨⟨sub_pos.mpr early, sub_le_self _ (sub_nonneg.mpr begun)⟩, ?_⟩
  intro during later checks clocked'
  have stays : (∀ time, .check host time ∈ during → time < since + recovery) →
      entry? (run (past ++ .check host now :: during) (empty threshold recovery)) host =
        some entry := by
    intro before
    rw [run_append]
    refine entry?_run_rejected listed paused ?_ ?_
    · exact List.forall_mem_cons.mpr ⟨fun _ => ⟨now, rfl⟩, checks⟩
    · intro time member
      rw [same]
      rcases List.mem_cons.mp member with own | member
      · cases own
        exact early
      · exact sub_lt_iff_lt_add'.mpr (before time member)
  constructor
  · intro before
    have sooner : ∀ time, .check host time ∈ during → time < since + recovery := by
      intro time member
      refine lt_of_le_of_lt ?_ before
      have whole : past ++ .check host now :: (during ++ [.check host later]) =
          (past ++ .check host now :: during) ++ [.check host later] := by simp
      rw [whole] at clocked'
      exact clocked'.le_check (.check host time) (by simp [member]) time rfl
    refine rejection_iff.mpr ⟨entry, since, stays sooner, paused, ?_, ?_⟩
    · rw [same]
      exact sub_lt_iff_lt_add'.mpr before
    · have left : recovery - (now - since) - (later - now) = recovery - (later - since) := by abel
      rw [same, limit, left]
  · intro elapsed before
    rw [check_of_paused (stays before) paused, same, if_neg]
    exact not_lt.mpr (le_sub_iff_add_le'.mpr elapsed)

/-- The one failure opens the breaker, and at 60 a probe is admitted. -/
def probedHost : List (Operation Int) :=
  [.fail "host" 0, .check "host" 60]

/-- What is done while the probe is out. -/
def impatience : List (Operation Int) :=
  [.check "host" 100, .fail "other" 105]

/-- A check at 70 is told to wait for 50: one at 110 is told to wait for 10, and one at 120 passes. -/
theorem impatience_told_time_left :
    Clocked (probedHost ++ [.check "host" 70]) ∧
    ((run probedHost (empty 1 60)).check "host" 70).1 = some ⟨1, 1, 50⟩ ∧
    (∀ operation ∈ impatience, operation.concerns "host" →
      ∃ time, operation = .check "host" time) ∧
    Clocked (probedHost ++ .check "host" 70 :: (impatience ++ [.check "host" 110])) ∧
    ((run (probedHost ++ .check "host" 70 :: impatience) (empty 1 60)).check "host" 110).1 =
      some ⟨1, 1, 10⟩ ∧
    ((run (probedHost ++ .check "host" 70 :: impatience) (empty 1 60)).check "host" 120).1 =
      none := by
  have clocked : Clocked (probedHost ++ [.check "host" 70]) := by
    simp [Clocked, probedHost, Operation.time?]
  have rejected : ((run probedHost (empty 1 60)).check "host" 70).1 = some ⟨1, 1, 50⟩ := rfl
  have checks : ∀ operation ∈ impatience, operation.concerns "host" →
      ∃ time, operation = .check "host" time := by
    simp [impatience, Operation.concerns]
  have clocked' (later : Int) (coming : 105 ≤ later) :
      Clocked (probedHost ++ .check "host" 70 :: (impatience ++ [.check "host" later])) := by
    simp [Clocked, probedHost, impatience, Operation.time?]
    omega
  obtain ⟨-, told⟩ := rejection_tells_time_left clocked rejected
  refine ⟨clocked, rejected, checks, clocked' 110 (by decide), ?_, ?_⟩
  · exact (told impatience 110 checks (clocked' 110 (by decide))).1 (by decide)
  · refine (told impatience 120 checks (clocked' 120 (by decide))).2 (by decide) ?_
    simp [impatience]

end Run

end Orchestra.Breaker
