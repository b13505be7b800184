import Orchestra.Proofs.Breaker.Claim

/-!
Independence of hosts.

An operation on other hosts leaves the entry of a host alone, and what an operation on the host
answers and makes of its entry depends on that entry only. So a host cannot tell a run from the part
of it that consists of the operations on itself.
-/

namespace Orchestra.Breaker

variable {Time : Type} {breaker first second : Breaker Time} {host : String}

/-- The operation is one on a host. A reset that names no host is one on every host. -/
def Operation.concerns (host : String) : Operation Time → Bool
  | .check other _ | .succeed other | .fail other _ => other == host
  | .reset target => (target.filter (· != "")).all (· == host)

theorem Operation.cases_of_concerns {operation : Operation Time}
    (concerned : operation.concerns host) :
    (∃ now, operation = .check host now) ∨ operation = .succeed host ∨
      (∃ now, operation = .fail host now) ∨ ∃ target, operation = .reset target := by
  cases operation with
  | check other now => exact .inl ⟨now, by rw [beq_iff_eq.mp concerned]⟩
  | succeed other => exact .inr (.inl (by rw [beq_iff_eq.mp concerned]))
  | fail other now => exact .inr (.inr (.inl ⟨now, by rw [beq_iff_eq.mp concerned]⟩))
  | reset target => exact .inr (.inr (.inr ⟨target, rfl⟩))

/-- Two breakers are the same to a host. -/
structure Alike (host : String) (first second : Breaker Time) : Prop where
  threshold : first.threshold = second.threshold
  recovery : first.recovery = second.recovery
  entry : first.entry? host = second.entry? host

theorem Alike.refl (breaker : Breaker Time) : Alike host breaker breaker :=
  ⟨rfl, rfl, rfl⟩

theorem Alike.put (alike : Alike host first second) (entry : BreakerEntry Time) :
    Alike host (first.put host entry) (second.put host entry) :=
  ⟨alike.threshold, alike.recovery, by simp⟩

theorem Alike.drop (alike : Alike host first second) :
    Alike host (first.drop host) (second.drop host) :=
  ⟨alike.threshold, alike.recovery, by simp⟩

theorem Alike.recordFailure (alike : Alike host first second) (now : Time) :
    Alike host (first.recordFailure host now) (second.recordFailure host now) := by
  unfold Breaker.recordFailure
  rw [alike.entry, alike.threshold]
  exact alike.put _

theorem Alike.recordSuccess (alike : Alike host first second) :
    Alike host (first.recordSuccess host) (second.recordSuccess host) := by
  unfold Breaker.recordSuccess
  rw [alike.entry]
  split
  · exact alike
  · split
    · exact alike.drop
    · exact alike.put _

/-- A reset forgets the hosts that it is an operation on. -/
theorem entry?_reset_self {target : Option String}
    (concerned : Operation.concerns host (.reset target : Operation Time)) :
    entry? (breaker.reset target) host = none := by
  unfold reset
  split
  next name named =>
    obtain rfl : name = host := by simpa [Operation.concerns, named] using concerned
    exact entry?_drop_self
  · rfl

theorem entry?_reset_other {target : Option String}
    (apart : Operation.concerns host (.reset target : Operation Time) = false) :
    entry? (breaker.reset target) host = breaker.entry? host := by
  unfold reset
  split
  next name named =>
    refine entry?_drop_other fun same => ?_
    simp [Operation.concerns, named, same] at apart
  next unnamed => simp [Operation.concerns, unnamed] at apart

section Run

variable [Sub Time] [LT Time] [DecidableLT Time] [LE Time] [DecidableLE Time]

/-- Why an operation is rejected; only checks ever are. -/
def rejection? (breaker : Breaker Time) : Operation Time → Option (Rejection Time)
  | .check host now => (breaker.check host now).1
  | .succeed _ | .fail .. | .reset _ => none

/-- The answers to the operations on a host in a run. -/
def answers (host : String) : Breaker Time → List (Operation Time) → List (Option (Rejection Time))
  | _, [] => []
  | breaker, operation :: rest =>
    if operation.concerns host then
      breaker.rejection? operation :: answers host (breaker.after operation) rest
    else answers host (breaker.after operation) rest

theorem Alike.check (alike : Alike host first second) (now : Time) :
    (first.check host now).1 = (second.check host now).1 ∧
      Alike host (first.check host now).2 (second.check host now).2 := by
  unfold Breaker.check reject
  rw [alike.entry, alike.threshold, alike.recovery]
  split
  · exact ⟨rfl, alike⟩
  · split
    · exact ⟨rfl, alike⟩
    · split
      · split
        · exact ⟨rfl, alike⟩
        · exact ⟨rfl, alike.put _⟩
      · exact ⟨rfl, alike.put _⟩
    · split
      · exact ⟨rfl, alike.put _⟩
      · exact ⟨rfl, alike⟩

/-- An operation on a host answers the same and leaves the same for the host, whatever the breaker
holds of others. -/
theorem Alike.after (alike : Alike host first second) {operation : Operation Time}
    (concerned : operation.concerns host) :
    first.rejection? operation = second.rejection? operation ∧
      Alike host (first.after operation) (second.after operation) := by
  obtain ⟨now, rfl⟩ | rfl | ⟨now, rfl⟩ | ⟨target, rfl⟩ := Operation.cases_of_concerns concerned
  · exact alike.check now
  · exact ⟨rfl, alike.recordSuccess⟩
  · exact ⟨rfl, alike.recordFailure now⟩
  · refine ⟨rfl, ?_, ?_, ?_⟩
    · exact (first.after_threshold _).trans (alike.threshold.trans (second.after_threshold _).symm)
    · exact (first.after_recovery _).trans (alike.recovery.trans (second.after_recovery _).symm)
    · exact (entry?_reset_self concerned).trans (entry?_reset_self concerned).symm

/-- An operation on other hosts leaves the entry of a host alone. -/
theorem entry?_after_other {operation : Operation Time}
    (apart : operation.concerns host = false) :
    entry? (breaker.after operation) host = breaker.entry? host := by
  cases operation with
  | check other now =>
      exact entry?_check_other (ne_of_beq_false apart |>.symm) now
  | succeed other =>
      exact entry?_recordSuccess_other (ne_of_beq_false apart |>.symm)
  | fail other now =>
      exact entry?_recordFailure_other (ne_of_beq_false apart |>.symm) now
  | reset target => exact entry?_reset_other apart

theorem Alike.after_other (alike : Alike host first second) {operation : Operation Time}
    (apart : operation.concerns host = false) : Alike host (first.after operation) second where
  threshold := (first.after_threshold operation).trans alike.threshold
  recovery := (first.after_recovery operation).trans alike.recovery
  entry := (entry?_after_other apart).trans alike.entry

/-- What happens on other hosts shows neither in the answers to a host nor in its entry. -/
theorem Alike.run (alike : Alike host first second) (operations : List (Operation Time)) :
    answers host first operations = answers host second (operations.filter (·.concerns host)) ∧
      Alike host (first.run operations) (second.run (operations.filter (·.concerns host))) := by
  induction operations generalizing first second with
  | nil => exact ⟨rfl, alike⟩
  | cons operation rest ih =>
      cases concerned : operation.concerns host with
      | true =>
          obtain ⟨answered, alike⟩ := alike.after concerned
          obtain ⟨same, last⟩ := ih alike
          rw [List.filter_cons_of_pos concerned]
          refine ⟨?_, last⟩
          simp only [answers, concerned, if_true, answered, same]
      | false =>
          obtain ⟨same, last⟩ := ih (alike.after_other concerned)
          rw [List.filter_cons_of_neg (by simp [concerned])]
          refine ⟨?_, last⟩
          rw [← same]
          simp [answers, concerned]

/-- In every run the answers to the operations on a host, and the entry that the host has in the
end, are the same as in the run without the operations on other hosts. -/
theorem hosts_independent (threshold : Int) (recovery : Time) (host : String)
    (operations : List (Operation Time)) :
    answers host (empty threshold recovery) operations =
        answers host (empty threshold recovery) (operations.filter (·.concerns host)) ∧
      entry? (run operations (empty threshold recovery)) host =
        entry? (run (operations.filter (·.concerns host)) (empty threshold recovery)) host := by
  obtain ⟨answered, alike⟩ := (Alike.refl (empty threshold recovery)).run operations
  exact ⟨answered, alike.entry⟩

end Run

end Orchestra.Breaker
