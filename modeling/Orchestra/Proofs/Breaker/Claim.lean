import Orchestra.Proofs.Breaker.Operation

/-!
The slot of a probe.

A breaker admits one probe at a time: the slot is claimed while the breaker is half-open, and the
outcome of the probe gives it back.
-/

namespace Orchestra.Breaker

variable {Time : Type} {breaker : Breaker Time} {host other : String} {entry : BreakerEntry Time}

/-- Slots of probes are claimed only while a breaker is half-open. -/
def Orderly (breaker : Breaker Time) : Prop :=
  Every (fun entry => entry.probeStarted.isSome → entry.state = .halfOpen) breaker

/-- No probe of a host is under way. -/
def Unclaimed (breaker : Breaker Time) (host : String) : Prop :=
  ∀ entry, breaker.entry? host = some entry → entry.probeStarted = none

theorem orderly_empty (threshold : Int) (recovery : Time) :
    Orderly (empty threshold recovery) := by
  intro host entry listed
  cases listed

theorem Orderly.recordFailure (orderly : Orderly breaker) (host : String) (now : Time) :
    Orderly (breaker.recordFailure host now) :=
  Every.put orderly (by simp)

theorem Orderly.recordSuccess (orderly : Orderly breaker) (host : String) :
    Orderly (breaker.recordSuccess host) := by
  unfold Breaker.recordSuccess
  split
  · exact orderly
  next entry listed =>
    split
    · exact Every.drop orderly
    · exact Every.put orderly fun claimed => orderly host entry listed claimed

/-- The report of a failure gives the slot back. -/
theorem unclaimed_recordFailure (breaker : Breaker Time) (host : String) (now : Time) :
    Unclaimed (breaker.recordFailure host now) host := by
  intro entry listed
  obtain rfl := Option.some.inj (entry?_put_self.symm.trans listed)
  rfl

/-- The report of a success gives the slot back. -/
theorem Orderly.unclaimed_recordSuccess (orderly : Orderly breaker) (host : String) :
    Unclaimed (breaker.recordSuccess host) host := by
  intro entry listed
  unfold Breaker.recordSuccess at listed
  split at listed
  next missing => cases missing.symm.trans listed
  next found present =>
    split at listed
    next => cases entry?_drop_self.symm.trans listed
    next unprobed =>
      obtain rfl := Option.some.inj (entry?_put_self.symm.trans listed)
      cases claimed : found.probeStarted with
      | none => rfl
      | some started => exact (unprobed (orderly host found present (by simp [claimed]))).elim

theorem entry?_recordFailure_other (different : other ≠ host) (now : Time) :
    entry? (breaker.recordFailure host now) other = breaker.entry? other :=
  entry?_put_other different

theorem entry?_recordSuccess_other (different : other ≠ host) :
    entry? (breaker.recordSuccess host) other = breaker.entry? other := by
  unfold recordSuccess
  split
  · rfl
  · split
    · exact entry?_drop_other different
    · exact entry?_put_other different

section Run

variable [Sub Time] [LT Time] [DecidableLT Time] [LE Time] [DecidableLE Time]

theorem Orderly.check (orderly : Orderly breaker) (host : String) (now : Time) :
    Orderly (breaker.check host now).2 := by
  rcases breaker.check_cases host now with same | ⟨entry, -, -, probed⟩
  · rwa [same]
  · rw [probed]
    exact Every.put orderly fun _ => rfl

theorem entry?_check_other (different : other ≠ host) (now : Time) :
    entry? (breaker.check host now).2 other = breaker.entry? other := by
  rcases breaker.check_cases host now with same | ⟨entry, -, -, probed⟩
  · rw [same]
  · rw [probed]
    exact entry?_put_other different

theorem Orderly.after (orderly : Orderly breaker) (operation : Operation Time) :
    Orderly (breaker.after operation) := by
  cases operation with
  | check host now => exact orderly.check host now
  | succeed host => exact orderly.recordSuccess host
  | fail host now => exact orderly.recordFailure host now
  | reset host => exact Every.reset orderly host

/-- In every state that a breaker comes to, slots are claimed only while it is half-open. -/
theorem orderly_run (threshold : Int) (recovery : Time) (operations : List (Operation Time)) :
    Orderly (run operations (empty threshold recovery)) :=
  foldl_preserves Breaker.after Orderly (fun operation _ _ orderly => orderly.after operation)
    (orderly_empty threshold recovery)

end Run

end Orchestra.Breaker
