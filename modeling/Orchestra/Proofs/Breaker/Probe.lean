import Orchestra.Proofs.Breaker.Operation

/-!
Probes that fail.

A half-open breaker that has counted up to its threshold opens again when its probe fails. The count
is lost by a success that is reported while the breaker is open: the call was admitted before, and
its success sets the count to zero without closing the breaker.
-/

namespace Orchestra.Breaker

variable {Time : Type} {breaker : Breaker Time} {host : String} {entry : BreakerEntry Time}

/-- Breakers that are not closed have counted up to the threshold. -/
def Armed (breaker : Breaker Time) : Prop :=
  Every (fun entry => entry.state ≠ .closed → breaker.threshold ≤ entry.failures) breaker

/-- The operation reports a success while the breaker of the host is open. -/
def Late (breaker : Breaker Time) : Operation Time → Prop
  | .succeed host => ∃ entry, breaker.entry? host = some entry ∧ entry.state = .opened
  | _ => False

theorem armed_empty (threshold : Int) (recovery : Time) : Armed (empty threshold recovery) := by
  intro host entry listed
  cases listed

theorem Armed.recordFailure (armed : Armed breaker) (host : String) (now : Time) :
    Armed (breaker.recordFailure host now) := by
  unfold Breaker.recordFailure
  split
  next failures state counted =>
    refine Every.put armed fun opened => ?_
    by_cases reached : breaker.threshold ≤ failures
    · exact reached
    · -- the state stays, so that the entry was not closed before
      have kept : state ≠ .closed := by simpa [reached] using opened
      cases listed : breaker.entry? host with
      | none => simp_all
      | some entry =>
          obtain ⟨rfl, rfl⟩ : entry.failures + 1 = failures ∧ entry.state = state := by
            simpa [listed] using counted
          have before := armed host entry listed kept
          omega

/-- A success leaves a breaker armed unless it is reported while the breaker is open. -/
theorem armed_recordSuccess_iff (positive : 1 ≤ breaker.threshold) (armed : Armed breaker)
    (host : String) :
    Armed (breaker.recordSuccess host) ↔
      ¬ ∃ entry, breaker.entry? host = some entry ∧ entry.state = .opened := by
  unfold recordSuccess
  cases listed : breaker.entry? host with
  | none => exact iff_of_true armed (by simp)
  | some entry =>
      dsimp only
      cases state : entry.state with
      | halfOpen => exact iff_of_true (Every.drop armed) (by simp [state])
      | closed =>
          refine iff_of_true (Every.put armed fun opened => ?_) (by simp [state])
          exact (opened rfl).elim
      | opened =>
          refine iff_of_false (fun kept => ?_) (by simp [state])
          have counted := kept host _ entry?_put_self (by simp)
          have threshold : breaker.threshold ≤ 0 := counted
          omega

/-- The entry of a host that has one after a failure. -/
theorem entry?_recordFailure (listed : breaker.entry? host = some entry) (now : Time) :
    entry? (breaker.recordFailure host now) host = some {
      failures := entry.failures + 1
      lastFailure := now
      state := if breaker.threshold ≤ entry.failures + 1 then .opened else entry.state
      probeStarted := none } := by
  simp [recordFailure, listed]

section Run

variable [Sub Time] [LT Time] [DecidableLT Time] [LE Time] [DecidableLE Time]

theorem Armed.check (armed : Armed breaker) (host : String) (now : Time) :
    Armed (breaker.check host now).2 := by
  rcases breaker.check_cases host now with same | ⟨entry, listed, opened, probed⟩
  · rwa [same]
  · rw [probed]
    exact Every.put armed fun _ => armed host entry listed opened

/-- Every operation leaves a breaker armed, except for a late success. -/
theorem armed_after_iff (positive : 1 ≤ breaker.threshold) (armed : Armed breaker)
    (operation : Operation Time) : Armed (breaker.after operation) ↔ ¬ Late breaker operation := by
  cases operation with
  | check host now => exact iff_of_true (armed.check host now) not_false
  | succeed host => exact armed_recordSuccess_iff positive armed host
  | fail host now => exact iff_of_true (armed.recordFailure host now) not_false
  | reset host =>
      refine iff_of_true ?_ not_false
      have kept := after_threshold breaker (.reset host)
      simp only [Armed, kept]
      exact Every.reset armed host

/-- A failure opens the breaker of a host, and calls are rejected until the recovery time is over. -/
def Reopens (breaker : Breaker Time) (host : String) (now : Time) : Prop :=
  (∃ entry, entry? (breaker.recordFailure host now) host = some entry ∧ entry.state = .opened) ∧
    ∀ later, later - now < breaker.recovery →
      ((breaker.recordFailure host now).check host later).1.isSome

/-- A failed probe opens its breaker exactly when it makes the count reach the threshold. -/
theorem reopens_iff [Std.LawfulOrderLT Time] (listed : breaker.entry? host = some entry)
    (probed : entry.state = .halfOpen) (now : Time) :
    Reopens breaker host now ↔ breaker.threshold ≤ entry.failures + 1 := by
  have failed := entry?_recordFailure listed now
  constructor
  · rintro ⟨⟨last, found, opened⟩, -⟩
    obtain rfl := Option.some.inj (failed.symm.trans found)
    by_cases reached : breaker.threshold ≤ entry.failures + 1
    · exact reached
    · simp [reached, probed] at opened
  · intro reached
    rw [if_pos reached] at failed
    refine ⟨⟨_, failed, rfl⟩, fun later early => ?_⟩
    have unrested : ¬ breaker.recovery ≤ later - now := (Std.lt_iff_le_and_not_ge.mp early).2
    have recovery : (breaker.recordFailure host now).recovery = breaker.recovery := rfl
    simp [check, failed, recovery, unrested, reject]

/-- In every state of a run the breakers that are not closed have counted up to the threshold,
exactly as long as no success is reported while a breaker is open. A failed probe reopens its breaker
exactly when its failure makes the count reach the threshold, which it does where the former
holds. -/
theorem armed_iff_no_late_success [Std.LawfulOrderLT Time] {threshold : Int}
    (positive : 1 ≤ threshold) (recovery : Time) (operations : List (Operation Time)) :
    ((∀ past, past <+: operations → Armed (run past (empty threshold recovery))) ↔
      ∀ past operation, past ++ [operation] <+: operations →
        ¬ Late (run past (empty threshold recovery)) operation) ∧
    ∀ past, past <+: operations → ∀ host entry,
      entry? (run past (empty threshold recovery)) host = some entry → entry.state = .halfOpen →
      ∀ now,
        (Reopens (run past (empty threshold recovery)) host now ↔
          threshold ≤ entry.failures + 1) ∧
        (Armed (run past (empty threshold recovery)) →
          Reopens (run past (empty threshold recovery)) host now) := by
  constructor
  · refine foldl_prefixes_iff after (fun breaker => breaker.threshold = threshold) Armed
      (fun operation breaker => Late breaker operation) ?_ ?_ rfl (armed_empty threshold recovery)
    · intro operation _ breaker same
      exact (breaker.after_threshold operation).trans same
    · rintro operation - breaker rfl armed
      exact armed_after_iff positive armed operation
  · intro past _ host entry listed probed now
    have same : (run past (empty threshold recovery)).threshold = threshold := run_threshold past _
    have exactly := reopens_iff listed probed now
    rw [same] at exactly
    refine ⟨exactly, fun armed => exactly.mpr ?_⟩
    have counted := armed host entry listed (by simp [probed])
    omega

/-- The second of two failures opens the breaker, and then an earlier call succeeds. When the
recovery time is over, a probe is admitted and fails. -/
def lateSuccess : List (Operation Nat) :=
  [.fail "host" 0, .fail "host" 0, .succeed "host", .check "host" 60, .fail "host" 60]

/-- After a late success a failed probe does not reopen the breaker, and the next call passes at
once. -/
theorem late_success_admits_calls :
    (1 : Int) ≤ 2 ∧ ¬ Armed (run (lateSuccess.take 3) (empty 2 60)) ∧
      (∃ entry, entry? (run (lateSuccess.take 4) (empty 2 60)) "host" = some entry ∧
        entry.state = .halfOpen) ∧
      ¬ Reopens (run (lateSuccess.take 4) (empty 2 60)) "host" 60 ∧
      ((run lateSuccess (empty 2 60)).check "host" 60).1 = none := by
  have listed : entry? (run (lateSuccess.take 3) (empty 2 60)) "host" =
      some ⟨0, 0, .opened, none⟩ := rfl
  have probed : entry? (run (lateSuccess.take 4) (empty 2 60)) "host" =
      some ⟨0, 0, .halfOpen, some 60⟩ := rfl
  refine ⟨by decide, fun armed => ?_, ⟨_, probed, rfl⟩, fun reopens => ?_, by decide +kernel⟩
  · exact absurd (armed "host" _ listed (by simp)) (by decide)
  · exact absurd ((reopens_iff probed rfl 60).mp reopens) (by decide)

/-- The late success is what disarms the breaker. -/
theorem late_success_disarms :
    (1 : Int) ≤ 2 ∧ ¬ (∀ past, past <+: lateSuccess → Armed (run past (empty 2 60))) ∧
      ¬ Reopens (run (lateSuccess.take 4) (empty 2 60)) "host" 60 := by
  have punctual := armed_iff_no_late_success (by decide : (1 : Int) ≤ 2) 60 lateSuccess
  refine ⟨by decide, fun armed => ?_, fun reopens => ?_⟩
  · exact punctual.1.mp armed (lateSuccess.take 2) (.succeed "host") ⟨_, rfl⟩ ⟨_, rfl, rfl⟩
  · have probed := punctual.2 (lateSuccess.take 4) (List.take_prefix 4 _) "host"
      ⟨0, 0, .halfOpen, some 60⟩ rfl rfl 60
    exact absurd (probed.1.mp reopens) (by decide)

end Run

end Orchestra.Breaker
