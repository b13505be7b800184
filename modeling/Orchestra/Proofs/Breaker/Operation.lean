import Orchestra.Breaker
import Orchestra.Proofs.Run

/-!
The operations of a breaker, and runs of them.

Every operation but a reset of all hosts concerns one host: it changes the entry of that host as
stated here and leaves all others alone.
-/

namespace Orchestra.Breaker

variable {Time : Type} {breaker : Breaker Time} {host other : String} {entry : BreakerEntry Time}

section Entries

theorem lookup_putEntry_self (host : String) (entry : BreakerEntry Time)
    (entries : List (String × BreakerEntry Time)) :
    (putEntry host entry entries).lookup host = some entry := by
  induction entries with
  | nil => simp [putEntry]
  | cons first rest ih =>
      obtain ⟨name, old⟩ := first
      unfold putEntry
      split
      next same => simp [beq_iff_eq.mp same]
      next different =>
        have unlike : (host == name) = false := by
          rw [Bool.beq_comm]
          simpa using different
        simp [List.lookup_cons, unlike, ih]

theorem lookup_putEntry_other (different : other ≠ host) (entry : BreakerEntry Time)
    (entries : List (String × BreakerEntry Time)) :
    (putEntry host entry entries).lookup other = entries.lookup other := by
  induction entries with
  | nil => simp [putEntry, List.lookup_cons, beq_false_of_ne different]
  | cons first rest ih =>
      obtain ⟨name, old⟩ := first
      unfold putEntry
      split
      next same =>
        have unlike : (other == name) = false := by simpa [beq_iff_eq.mp same] using different
        simp [List.lookup_cons, unlike]
      next => simp [List.lookup_cons, ih]

@[simp] theorem entry?_put_self : entry? (breaker.put host entry) host = some entry :=
  lookup_putEntry_self host entry breaker.entries

theorem entry?_put_other (different : other ≠ host) :
    entry? (breaker.put host entry) other = breaker.entry? other :=
  lookup_putEntry_other different entry breaker.entries

@[simp] theorem entry?_drop_self : entry? (breaker.drop host) host = none := by
  refine List.lookup_eq_none_iff.mpr fun entry member => ?_
  rw [bne_comm]
  exact (List.mem_filter.mp member).2

theorem entry?_drop_other (different : other ≠ host) :
    entry? (breaker.drop host) other = breaker.entry? other := by
  unfold entry? drop
  induction breaker.entries with
  | nil => rfl
  | cons first rest ih =>
      obtain ⟨name, old⟩ := first
      by_cases same : name = host
      · simp [same, ih, List.lookup_cons, beq_false_of_ne different]
      · simp [same, List.lookup_cons, ih]

/-- Every entry of a breaker has a property. -/
def Every (P : BreakerEntry Time → Prop) (breaker : Breaker Time) : Prop :=
  ∀ host entry, breaker.entry? host = some entry → P entry

theorem Every.put {P : BreakerEntry Time → Prop} (every : Every P breaker) (fits : P entry) :
    Every P (breaker.put host entry) := by
  intro other found listed
  by_cases own : other = host
  · subst own
    obtain rfl := Option.some.inj (entry?_put_self.symm.trans listed)
    exact fits
  · exact every other found ((entry?_put_other own).symm.trans listed)

theorem Every.drop {P : BreakerEntry Time → Prop} (every : Every P breaker) :
    Every P (breaker.drop host) := by
  intro other found listed
  by_cases own : other = host
  · subst own
    cases entry?_drop_self.symm.trans listed
  · exact every other found ((entry?_drop_other own).symm.trans listed)

theorem Every.reset {P : BreakerEntry Time → Prop} (every : Every P breaker)
    (host : Option String) : Every P (breaker.reset host) := by
  unfold Breaker.reset
  split
  · exact every.drop
  · intro other found listed
    cases listed

@[simp] theorem entry?_empty (threshold : Int) (recovery : Time) :
    entry? (empty threshold recovery) host = none := rfl

end Entries

/-- What a breaker is asked and told. A call that is only asked for and a call that must be admitted
are the same to it. -/
inductive Operation (Time : Type) where
  | check (host : String) (now : Time)
  | succeed (host : String)
  | fail (host : String) (now : Time)
  | reset (host : Option String)

variable [Sub Time] [LT Time] [DecidableLT Time] [LE Time] [DecidableLE Time]

/-- The breaker after an operation. -/
def after (breaker : Breaker Time) : Operation Time → Breaker Time
  | .check host now => (breaker.check host now).2
  | .succeed host => breaker.recordSuccess host
  | .fail host now => breaker.recordFailure host now
  | .reset host => breaker.reset host

@[simp] theorem after_check (breaker : Breaker Time) (host : String) (now : Time) :
    breaker.after (.check host now) = (breaker.check host now).2 := rfl

@[simp] theorem after_succeed (breaker : Breaker Time) (host : String) :
    breaker.after (.succeed host) = breaker.recordSuccess host := rfl

@[simp] theorem after_fail (breaker : Breaker Time) (host : String) (now : Time) :
    breaker.after (.fail host now) = breaker.recordFailure host now := rfl

@[simp] theorem after_reset (breaker : Breaker Time) (host : Option String) :
    breaker.after (.reset host) = breaker.reset host := rfl

/-- A breaker after a number of operations. -/
def run (operations : List (Operation Time)) (breaker : Breaker Time) : Breaker Time :=
  operations.foldl after breaker

@[simp] theorem run_nil (breaker : Breaker Time) : run [] breaker = breaker := rfl

@[simp] theorem run_cons (operation : Operation Time) (rest : List (Operation Time))
    (breaker : Breaker Time) :
    run (operation :: rest) breaker = run rest (breaker.after operation) := rfl

@[simp] theorem run_append (first second : List (Operation Time)) (breaker : Breaker Time) :
    run (first ++ second) breaker = run second (run first breaker) :=
  List.foldl_append

/-- A check leaves the breaker as it is, or it admits a probe to an entry that is not closed. -/
theorem check_cases (breaker : Breaker Time) (host : String) (now : Time) :
    (breaker.check host now).2 = breaker ∨
      ∃ entry, breaker.entry? host = some entry ∧ entry.state ≠ .closed ∧
        breaker.check host now = (none, breaker.admitProbe host entry now) := by
  cases listed : breaker.entry? host with
  | none => exact .inl (by simp [check, listed])
  | some entry =>
      cases state : entry.state with
      | closed => exact .inl (by simp [check, listed, state])
      | halfOpen =>
          cases started : entry.probeStarted with
          | none => exact .inr ⟨entry, rfl, by simp [state], by simp [check, listed, state, started]⟩
          | some instant =>
              by_cases busy : now - instant < breaker.recovery
              · exact .inl (by simp [check, listed, state, started, busy])
              · refine .inr ⟨entry, rfl, by simp [state], ?_⟩
                simp [check, listed, state, started, busy]
      | opened =>
          by_cases rested : breaker.recovery ≤ now - entry.lastFailure
          · exact .inr ⟨entry, rfl, by simp [state], by simp [check, listed, state, rested]⟩
          · exact .inl (by simp [check, listed, state, rested])

/-- An operation changes nothing but entries. -/
theorem exists_entries_after (breaker : Breaker Time) (operation : Operation Time) :
    ∃ entries, breaker.after operation = { breaker with entries } := by
  cases operation with
  | check host now =>
      rcases breaker.check_cases host now with same | ⟨entry, -, -, probed⟩
      · exact ⟨_, same⟩
      · exact ⟨_, congrArg Prod.snd probed⟩
  | succeed host =>
      show ∃ entries, breaker.recordSuccess host = { breaker with entries }
      unfold recordSuccess
      split
      · exact ⟨_, rfl⟩
      · split <;> exact ⟨_, rfl⟩
  | fail => exact ⟨_, rfl⟩
  | reset host =>
      show ∃ entries, breaker.reset host = { breaker with entries }
      unfold reset
      split <;> exact ⟨_, rfl⟩

/-- No operation changes the threshold. -/
@[simp] theorem after_threshold (breaker : Breaker Time) (operation : Operation Time) :
    (breaker.after operation).threshold = breaker.threshold := by
  obtain ⟨entries, changed⟩ := breaker.exists_entries_after operation
  rw [changed]

/-- No operation changes the recovery time. -/
@[simp] theorem after_recovery (breaker : Breaker Time) (operation : Operation Time) :
    (breaker.after operation).recovery = breaker.recovery := by
  obtain ⟨entries, changed⟩ := breaker.exists_entries_after operation
  rw [changed]

@[simp] theorem run_threshold (operations : List (Operation Time)) (breaker : Breaker Time) :
    (breaker.run operations).threshold = breaker.threshold :=
  foldl_preserves after (fun last => last.threshold = breaker.threshold)
    (fun operation _ last same => (last.after_threshold operation).trans same) rfl

@[simp] theorem run_recovery (operations : List (Operation Time)) (breaker : Breaker Time) :
    (breaker.run operations).recovery = breaker.recovery :=
  foldl_preserves after (fun last => last.recovery = breaker.recovery)
    (fun operation _ last same => (last.after_recovery operation).trans same) rfl

end Orchestra.Breaker
