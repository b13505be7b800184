import Mathlib.Algebra.Order.Group.Defs
import Mathlib.Algebra.Order.Group.Int
import Orchestra.Proofs.Breaker.Streak

/-!
The spacing of calls while a breaker is not closed.

From the failure that opens a breaker until the next success or reset of its host, the breaker
counts the recovery time from the last failure, or from the start of the last probe when that came
later. So the calls that it admits are that far apart, whatever becomes of them.
-/

namespace Orchestra.Breaker

section Clock

variable {Time : Type}

/-- The instant from which a breaker that is not closed counts its recovery time. -/
def pausedSince? (entry : BreakerEntry Time) : Option Time :=
  match entry.state with
  | .closed => none
  | .opened => some entry.lastFailure
  | .halfOpen => entry.probeStarted

/-- What the clock shows at an operation that looks at it. -/
def Operation.time? : Operation Time → Option Time
  | .check _ now | .fail _ now => some now
  | .succeed _ | .reset _ => none

/-- The clock is never put back. -/
def Clocked [LE Time] (operations : List (Operation Time)) : Prop :=
  (operations.filterMap Operation.time?).Pairwise (· ≤ ·)

/-- The clock is never put back, and it has come to an instant before. -/
def ClockedFrom [LE Time] (since : Time) (operations : List (Operation Time)) : Prop :=
  (since :: operations.filterMap Operation.time?).Pairwise (· ≤ ·)

/-- When a call of a host last failed. -/
def lastFailure? (host : String) (operations : List (Operation Time)) : Option Time :=
  (operations.filterMap (·.failure? host)).getLast?

theorem lastFailure?_cons (host : String) (operation : Operation Time)
    (rest : List (Operation Time)) (before : Time) :
    (lastFailure? host (operation :: rest)).getD before =
      (lastFailure? host rest).getD ((operation.failure? host).getD before) := by
  cases failed : operation.failure? host with
  | none => simp [lastFailure?, failed]
  | some now => simp [lastFailure?, failed, List.getLast?_cons]

end Clock

variable {Time : Type} [LinearOrder Time] {breaker : Breaker Time} {host : String}
  {entry : BreakerEntry Time} {failed since : Time} {operation : Operation Time}

theorem ClockedFrom.coming {rest : List (Operation Time)}
    (clocked : ClockedFrom since (operation :: rest)) : ∀ time ∈ operation.time?, since ≤ time := by
  intro time shown
  have shown : operation.time? = some time := shown
  exact (List.pairwise_cons.mp clocked).1 time (by simp [shown])

theorem ClockedFrom.rest {rest : List (Operation Time)} {next : Time}
    (clocked : ClockedFrom since (operation :: rest))
    (moved : next = since ∨ next ∈ operation.time?) : ClockedFrom next rest := by
  rcases moved with rfl | shown
  · refine List.Pairwise.sublist (List.cons_sublist_cons.mpr ?_) clocked
    exact (List.sublist_cons_self operation rest).filterMap _
  · have shown : operation.time? = some next := shown
    have later := (List.pairwise_cons.mp clocked).2
    rwa [List.filterMap_cons_some shown] at later

/-- The breaker of a host has counted up to the threshold, and counts its recovery time from an
instant that is not before the last failure. -/
structure Guarded (breaker : Breaker Time) (host : String) (failed since : Time) : Prop where
  paused : ∃ entry, breaker.entry? host = some entry ∧ pausedSince? entry = some since ∧
    breaker.threshold ≤ entry.failures
  failed_le : failed ≤ since

/-- A failure opens the breaker again, and the recovery time begins anew. -/
theorem Guarded.recordFailure (guarded : Guarded breaker host failed since) (now : Time) :
    Guarded (breaker.recordFailure host now) host now now := by
  obtain ⟨entry, listed, -, counted⟩ := guarded.paused
  have reached : breaker.threshold ≤ entry.failures + 1 := by omega
  refine ⟨⟨_, entry?_recordFailure listed now, ?_, reached⟩, le_rfl⟩
  simp [pausedSince?, reached]

omit [LinearOrder Time] in
/-- A failure that opens a breaker makes the count reach the threshold. -/
theorem reached_of_opens {now : Time} (unopened : ¬ Open breaker host)
    (listed : entry? (breaker.recordFailure host now) host = some entry)
    (opened : entry.state = .opened) :
    entry.lastFailure = now ∧ breaker.threshold ≤ entry.failures := by
  cases before : breaker.entry? host with
  | none =>
      obtain rfl := Option.some.inj ((entry?_recordFailure_missing before now).symm.trans listed)
      exact ⟨rfl, by simpa using opened⟩
  | some old =>
      obtain rfl := Option.some.inj ((entry?_recordFailure before now).symm.trans listed)
      by_cases reached : breaker.threshold ≤ old.failures + 1
      · exact ⟨rfl, reached⟩
      · have still : old.state = .opened := by simpa [reached] using opened
        exact (unopened ⟨old, before, still⟩).elim

section Run

variable [AddCommGroup Time]

/-- When a call of a host is admitted, where the operation asks for that. -/
def admission? (breaker : Breaker Time) (host : String) : Operation Time → Option Time
  | .check other now =>
    if other = host ∧ (breaker.check host now).1.isNone then some now else none
  | .succeed _ | .fail .. | .reset _ => none

/-- When the calls of a host are admitted in a run. -/
def admissions (host : String) : Breaker Time → List (Operation Time) → List Time
  | _, [] => []
  | breaker, operation :: rest =>
    (breaker.admission? host operation).toList ++ admissions host (breaker.after operation) rest

/-- A breaker that is not closed admits a call exactly when the recovery time is over. -/
theorem check_of_paused (listed : breaker.entry? host = some entry)
    (paused : pausedSince? entry = some since) (now : Time) :
    breaker.check host now =
      if now - since < breaker.recovery then
        (breaker.reject entry (breaker.recovery - (now - since)), breaker)
      else (none, breaker.admitProbe host entry now) := by
  cases state : entry.state with
  | closed => simp [pausedSince?, state] at paused
  | halfOpen =>
      have started : entry.probeStarted = some since := by simpa [pausedSince?, state] using paused
      simp only [check, listed, state, started]
  | opened =>
      obtain rfl : entry.lastFailure = since := by simpa [pausedSince?, state] using paused
      by_cases early : now - entry.lastFailure < breaker.recovery
      · simp [check, listed, state, early]
      · simp [check, listed, state, early, not_lt.mp early]

/-- A check before the recovery time is over changes nothing, and a later one begins it anew. -/
theorem Guarded.check (guarded : Guarded breaker host failed since) {now : Time}
    (order : since ≤ now) :
    (now - since < breaker.recovery ∧ (breaker.check host now).1.isSome ∧
      Guarded (breaker.check host now).2 host failed since) ∨
    (breaker.recovery ≤ now - since ∧ (breaker.check host now).1 = none ∧
      Guarded (breaker.check host now).2 host failed now) := by
  obtain ⟨entry, listed, paused, counted⟩ := guarded.paused
  rw [check_of_paused listed paused]
  by_cases early : now - since < breaker.recovery
  · rw [if_pos early]
    exact .inl ⟨early, rfl, guarded⟩
  · rw [if_neg early]
    refine .inr ⟨not_lt.mp early, rfl, ⟨_, entry?_put_self, rfl, counted⟩, ?_⟩
    exact guarded.failed_le.trans order

/-- Whatever is done but a success or a reset, the breaker stays guarded, and it admits no call
before the recovery time is over. -/
theorem Guarded.after (guarded : Guarded breaker host failed since)
    (unrelieved : operation.relieves host = false)
    (coming : ∀ time ∈ operation.time?, since ≤ time) :
    ∃ next, Guarded (breaker.after operation) host ((operation.failure? host).getD failed) next ∧
      (next = since ∨ next ∈ operation.time?) ∧
      ∀ time ∈ breaker.admission? host operation,
        breaker.recovery ≤ time - since ∧ time = next := by
  cases concerned : operation.concerns host with
  | false =>
      obtain ⟨-, unfailed⟩ := Operation.relieves_of_apart concerned
      refine ⟨since, ?_, .inl rfl, ?_⟩
      · obtain ⟨entry, listed, paused, counted⟩ := guarded.paused
        have kept : entry? (breaker.after operation) host = some entry :=
          (entry?_after_other concerned).trans listed
        rw [unfailed]
        exact ⟨⟨entry, kept, paused, (breaker.after_threshold operation).symm ▸ counted⟩,
          guarded.failed_le⟩
      · cases operation with
        | check other now => simp [admission?, ne_of_beq_false concerned]
        | succeed | fail | reset => simp [admission?]
  | true =>
      obtain ⟨now, rfl⟩ | rfl | ⟨now, rfl⟩ | ⟨target, rfl⟩ :=
        Operation.cases_of_concerns concerned
      · obtain ⟨early, rejected, kept⟩ | ⟨rested, admitted, begun⟩ :=
          guarded.check (coming now rfl)
        · refine ⟨since, kept, .inl rfl, ?_⟩
          simp [admission?, Option.ne_none_iff_isSome.mpr rejected]
        · refine ⟨now, begun, .inr rfl, ?_⟩
          simp [admission?, admitted, rested]
      · simp [Operation.relieves] at unrelieved
      · refine ⟨now, ?_, .inr rfl, by simp [admission?]⟩
        simpa [Operation.failure?] using guarded.recordFailure now
      · exact absurd concerned (by simpa [Operation.relieves] using unrelieved)

/-- A failure that opens a breaker makes it guarded, and nothing else opens one. -/
theorem guarded_of_opens (unopened : ¬ Open breaker host)
    (opens : Open (breaker.after operation) host) :
    ∃ now, operation = .fail host now ∧ Guarded (breaker.after operation) host now now := by
  obtain ⟨last, listed, opened⟩ := opens
  cases concerned : operation.concerns host with
  | false =>
      rw [entry?_after_other concerned] at listed
      exact (unopened ⟨last, listed, opened⟩).elim
  | true =>
      obtain ⟨now, rfl⟩ | rfl | ⟨now, rfl⟩ | ⟨target, rfl⟩ :=
        Operation.cases_of_concerns concerned
      · rw [after_check] at listed
        rcases breaker.check_cases host now with same | ⟨entry, -, -, probed⟩
        · rw [same] at listed
          exact (unopened ⟨last, listed, opened⟩).elim
        · rw [probed] at listed
          obtain rfl := Option.some.inj (entry?_put_self.symm.trans listed)
          cases opened
      · rw [after_succeed, entry?_recordSuccess_self] at listed
        obtain ⟨entry, before, changed⟩ := Option.bind_eq_some_iff.mp listed
        split at changed
        · cases changed
        · obtain rfl := Option.some.inj changed
          exact (unopened ⟨entry, before, opened⟩).elim
      · obtain ⟨failed, reached⟩ := reached_of_opens unopened listed opened
        exact ⟨now, rfl, ⟨last, listed, by simp [pausedSince?, opened, failed], reached⟩, le_rfl⟩
      · cases (entry?_reset_self concerned).symm.trans listed

variable [IsOrderedAddMonoid Time]

/-- A guarded breaker admits no call earlier than the recovery time after the last failure. -/
theorem Guarded.rejects (guarded : Guarded breaker host failed since)
    {before : List (Operation Time)} {now : Time}
    (unrelieved : ∀ operation ∈ before, operation.relieves host = false)
    (clocked : ClockedFrom since (before ++ [.check host now]))
    (early : now - (lastFailure? host before).getD failed < breaker.recovery) :
    ((run before breaker).check host now).1.isSome := by
  induction before generalizing breaker failed since with
  | nil =>
      obtain ⟨-, rejected, -⟩ | ⟨rested, -, -⟩ := guarded.check (clocked.coming now rfl)
      · exact rejected
      · have sooner : now - since ≤ now - failed := sub_le_sub_left guarded.failed_le now
        exact absurd early (not_lt.mpr (rested.trans sooner))
  | cons operation rest ih =>
      obtain ⟨first, others⟩ := List.forall_mem_cons.mp unrelieved
      obtain ⟨next, kept, moved, -⟩ := guarded.after first clocked.coming
      rw [lastFailure?_cons] at early
      refine ih kept others (clocked.rest moved) ?_
      rwa [after_recovery]

/-- A guarded breaker admits calls only the recovery time apart, and the first of them not earlier
than the recovery time after the instant from which it counts. -/
theorem Guarded.spaced (guarded : Guarded breaker host failed since)
    {during : List (Operation Time)}
    (unrelieved : ∀ operation ∈ during, operation.relieves host = false)
    (clocked : ClockedFrom since during) :
    (∀ time ∈ admissions host breaker during, breaker.recovery ≤ time - since) ∧
      (admissions host breaker during).Pairwise fun first second =>
        breaker.recovery ≤ second - first := by
  induction during generalizing breaker failed since with
  | nil => exact ⟨nofun, .nil⟩
  | cons operation rest ih =>
      obtain ⟨first, others⟩ := List.forall_mem_cons.mp unrelieved
      obtain ⟨next, kept, moved, admitted⟩ := guarded.after first clocked.coming
      obtain ⟨rested, spaced⟩ := ih kept others (clocked.rest moved)
      rw [after_recovery] at rested spaced
      have order : since ≤ next := moved.elim ge_of_eq (clocked.coming next)
      have later : ∀ time ∈ admissions host (breaker.after operation) rest,
          breaker.recovery ≤ time - since := fun time member =>
        (rested time member).trans (sub_le_sub_left order time)
      rw [admissions]
      cases asked : breaker.admission? host operation with
      | none => exact ⟨later, spaced⟩
      | some now =>
          obtain ⟨begun, rfl⟩ := admitted now asked
          exact ⟨List.forall_mem_cons.mpr ⟨begun, later⟩, List.pairwise_cons.mpr ⟨rested, spaced⟩⟩

/-- From the operation that opens the breaker of a host until the next success or reset of the
host, every check earlier than the recovery time after the last failure is rejected, and the calls
that are admitted are the recovery time apart. This also holds after probes that are given up, and
after failures of calls that were admitted before the breaker opened. -/
theorem open_breaker_spaces_calls {threshold : Int} {recovery : Time} {host : String}
    {past during : List (Operation Time)} {opening : Operation Time}
    (unopened : ¬ Open (run past (empty threshold recovery)) host)
    (opens : Open (run (past ++ [opening]) (empty threshold recovery)) host)
    (unrelieved : ∀ operation ∈ during, operation.relieves host = false)
    (clocked : Clocked (opening :: during)) :
    (∀ before now last, before ++ [.check host now] <+: during →
      lastFailure? host (opening :: before) = some last → now - last < recovery →
        ((run (past ++ opening :: before) (empty threshold recovery)).check host now).1.isSome) ∧
    (admissions host (run (past ++ [opening]) (empty threshold recovery)) during).Pairwise
      fun first second => recovery ≤ second - first := by
  rw [run_append] at opens ⊢
  obtain ⟨began, rfl, guarded⟩ := guarded_of_opens unopened opens
  have same : ((run past (empty threshold recovery)).after (.fail host began)).recovery =
      recovery := (after_recovery ..).trans (run_recovery ..)
  have from_opening : ClockedFrom began during := clocked
  constructor
  · rintro before now last ⟨rest, rfl⟩ latest early
    have latest : (lastFailure? host before).getD began = last := by
      have same := lastFailure?_cons host (.fail host began) before began
      rw [latest] at same
      simpa [Operation.failure?] using same.symm
    have begun : ClockedFrom began (before ++ [.check host now]) := by
      refine List.Pairwise.sublist (List.cons_sublist_cons.mpr ?_) from_opening
      exact (List.sublist_append_left _ rest).filterMap _
    rw [run_append]
    refine guarded.rejects (fun operation member => ?_) begun ?_
    · exact unrelieved operation (by simp [member])
    · rwa [latest, same]
  · have spaced := (guarded.spaced unrelieved from_opening).2
    rwa [same] at spaced

/-- The first of two failures, of which the second opens the breaker. -/
def firstFailure : List (Operation Int) :=
  [.fail "host" 0]

/-- A probe that is admitted at 70 never reports back, and at 150 a call fails that was admitted
before the breaker opened at 10. -/
def pausedCalls : List (Operation Int) :=
  [.check "host" 30, .check "host" 70, .check "host" 100, .check "host" 130, .fail "host" 150,
    .check "host" 200, .check "host" 210]

/-- Calls are admitted at 70, at 130 and at 210, and others are rejected. -/
theorem paused_calls_are_spaced :
    ¬ Open (run firstFailure (empty 2 60)) "host" ∧
      Open (run (firstFailure ++ [.fail "host" 10]) (empty 2 60)) "host" ∧
      (∀ operation ∈ pausedCalls, operation.relieves "host" = false) ∧
      Clocked (.fail "host" 10 :: pausedCalls) ∧
      admissions "host" (run (firstFailure ++ [.fail "host" 10]) (empty 2 60)) pausedCalls =
        [70, 130, 210] ∧
      ([70, 130, 210] : List Int).Pairwise (fun first second => 60 ≤ second - first) ∧
      ((run (firstFailure ++ .fail "host" 10 :: pausedCalls.take 5) (empty 2 60)).check "host"
        200).1.isSome := by
  have unopened : ¬ Open (run firstFailure (empty 2 60)) "host" := by
    rintro ⟨entry, listed, opened⟩
    obtain rfl : (⟨1, 0, .closed, none⟩ : BreakerEntry Int) = entry := Option.some.inj listed
    cases opened
  have opens : Open (run (firstFailure ++ [.fail "host" 10]) (empty 2 60)) "host" :=
    ⟨⟨2, 10, .opened, none⟩, rfl, rfl⟩
  have unrelieved : ∀ operation ∈ pausedCalls, operation.relieves "host" = false := by decide
  have clocked : Clocked (.fail "host" 10 :: pausedCalls) := by
    simp [Clocked, pausedCalls, Operation.time?]
  have admitted : admissions "host" (run (firstFailure ++ [.fail "host" 10]) (empty 2 60))
      pausedCalls = [70, 130, 210] := by decide +kernel
  obtain ⟨rejected, spaced⟩ := open_breaker_spaces_calls unopened opens unrelieved clocked
  rw [admitted] at spaced
  refine ⟨unopened, opens, unrelieved, clocked, admitted, spaced, ?_⟩
  exact rejected (pausedCalls.take 5) 200 150 ⟨[.check "host" 210], rfl⟩ rfl (by decide)

end Run

end Orchestra.Breaker
