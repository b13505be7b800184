import Orchestra.Proofs.Breaker.Operation
import Orchestra.Proofs.Http.Escape

/-!
How many attempts a request makes.

Two counts bound the attempts of a request: the retries that it may make, and the failures in a row
that the breaker of its host allows. The request ends with the first outcome that is not to be repeated,
if one of them comes within both bounds. Else it ends with the bound that is reached first, and with the
retries if that is both.
-/

namespace Orchestra

variable {Time : Type}

namespace Breaker

/-- The breaker of a host lets calls pass, after so many failures in a row. -/
def Closed (breaker : Breaker Time) (host : String) (failures : Nat) : Prop :=
  breaker.entry? host = none ∧ failures = 0 ∨
    ∃ entry, breaker.entry? host = some entry ∧ entry.state = .closed ∧ entry.failures = failures

variable {breaker : Breaker Time} {host : String} {failures : Nat}

theorem Closed.entry?_recordFailure (closed : breaker.Closed host failures) (now : Time) :
    entry? (breaker.recordFailure host now) host = some {
      failures := failures + 1
      lastFailure := now
      state := if breaker.threshold ≤ ↑(failures + 1) then .opened else .closed
      probeStarted := none } := by
  rcases closed with ⟨listed, rfl⟩ | ⟨entry, listed, state, rfl⟩
  · simp [recordFailure, listed]
  · simp [recordFailure, listed, state]

/-- Below the threshold one more failure leaves the breaker closed. -/
theorem Closed.recordFailure (closed : breaker.Closed host failures)
    (below : ¬ breaker.threshold ≤ ↑(failures + 1)) (now : Time) :
    (breaker.recordFailure host now).Closed host (failures + 1) := by
  refine .inr ⟨_, closed.entry?_recordFailure now, ?_, rfl⟩
  rw [if_neg below]

variable [Sub Time] [LT Time] [DecidableLT Time] [LE Time] [DecidableLE Time]

theorem Closed.check (closed : breaker.Closed host failures) (now : Time) :
    breaker.check host now = (none, breaker) := by
  rcases closed with ⟨listed, -⟩ | ⟨entry, listed, state, -⟩
  · simp [Breaker.check, listed]
  · simp [Breaker.check, listed, state]

/-- The failure that reaches the threshold keeps the next call away until the recovery time is over. -/
theorem Closed.check_recordFailure (closed : breaker.Closed host failures)
    (reached : breaker.threshold ≤ ↑(failures + 1)) {now later : Time}
    (early : ¬ breaker.recovery ≤ later - now) :
    (breaker.recordFailure host now).check host later =
      (some ⟨failures + 1, breaker.threshold, breaker.recovery - (later - now)⟩,
        breaker.recordFailure host now) := by
  have listed := closed.entry?_recordFailure now
  have same : (breaker.recordFailure host now).recovery = breaker.recovery := rfl
  rw [if_pos reached] at listed
  simp [Breaker.check, listed, same, early, reject]
  rfl

end Breaker

namespace Http

/-- What a request comes upon when nothing else uses its host: the outcomes of its transmissions, and
the times at which the breaker is asked and told. Both are counted by the transmissions before. -/
structure Plan (Time : Type) where
  script : Nat → Transmission
  asked : Nat → Time
  told : Nat → Time
  addresses : String → Except Failure (List Value)
  /-- How a time is written in a failure. -/
  written : Time → Value

/-- An outcome after which another attempt may help. -/
def Repeatable (outcome : Except Failure Value) : Prop :=
  ∃ failure, outcome = .error failure ∧ failure.retryable = .ok (some true)

/-- An outcome that no other attempt changes: a value, or a failure of the client that is final. -/
def Decisive (outcome : Except Failure Value) : Prop :=
  (∃ value, outcome = .ok value) ∨
    ∃ failure, outcome = .error failure ∧ failure.retryable = .ok (some false)

theorem Decisive.not_repeatable {outcome : Except Failure Value} (decisive : Decisive outcome) :
    ¬ Repeatable outcome := by
  rintro ⟨failure, rfl, repeats⟩
  rcases decisive with ⟨value, same⟩ | ⟨other, same, ends⟩
  · cases same
  · cases same
    cases repeats.symm.trans ends

/-- Only failures of the client say whether another attempt may help. -/
theorem isHttp_of_retryable {failure : Failure} {again : Bool}
    (judged : failure.retryable = .ok (some again)) : failure.isHttp = true := by
  cases http : failure.isHttp with
  | true => rfl
  | false => cases failure <;> simp_all [Failure.retryable, Failure.isHttp]

namespace Plan

variable [Sub Time] [LT Time] [DecidableLT Time] [LE Time] [DecidableLE Time]

def outcome (plan : Plan Time) (config : Config) (made : Nat) : Except Failure Value :=
  (plan.script made).outcome config

/-- The answers to a request, from the state of the breaker and the number of transmissions so far. -/
def answer (plan : Plan Time) :
    (call : Call) → Breaker Time × Nat → call.Reply × (Breaker Time × Nat)
  | .permit host, (breaker, made) =>
    let (rejection, breaker) := breaker.check host (plan.asked made)
    let admission : Except Failure Unit :=
      match rejection with
      | none => .ok ()
      | some rejection => .error (.circuitOpen (.str host) (.int rejection.failures)
          (.int rejection.threshold) (plan.written rejection.retryAfter))
    (admission, breaker, made)
  | .settle host true, (breaker, made) =>
    ((.ok () : Except Failure Unit), breaker.recordSuccess host, made)
  | .settle host false, (breaker, made) =>
    ((.ok () : Except Failure Unit), breaker.recordFailure host (plan.told made), made)
  | .resolve host, state => (plan.addresses host, state)
  | .transmit .., (breaker, made) => (plan.script made, breaker, made + 1)
  | .wait _, state => ((.ok () : Except Failure Unit), state)

end Plan

section Steps

variable [Sub Time] [LT Time] [DecidableLT Time] [LE Time] [DecidableLE Time]
  {plan : Plan Time} {config : Config} {prepared : Prepared} {breaker : Breaker Time}
  {number : Int} {left made failures retries : Nat}

theorem allows_eq (retried : config.retries = .int retries) {failure : Failure} {again : Bool}
    (judged : failure.retryable = .ok (some again)) :
    config.strategy.allows (.int number) (some failure) =
      .ok (decide (number ≤ retries) && again) := by
  have most : config.strategy.maxRetries = .int retries := retried
  have policy : (config.strategy.policy == .none) = false := rfl
  unfold Retry.Strategy.allows
  simp only [policy, most, Value.greater_int]
  by_cases more : number ≤ retries
  · have within : ¬ (retries : Int) < number := by omega
    simp [more, within, judged, bind, Except.bind, pure, Except.pure]
  · have beyond : (retries : Int) < number := by omega
    simp [more, beyond, bind, Except.bind, pure, Except.pure]

/-- An attempt that the breaker admits is one transmission. -/
theorem run_attempts (closed : breaker.Closed prepared.host failures) :
    (attempts config prepared number left).run plan.answer (breaker, made) =
      (report config prepared number (next? config prepared number left)
        (plan.outcome config made)).run plan.answer (breaker, made + 1) := by
  rw [attempts_eq]
  simp only [once, Program.run, Plan.answer, closed.check]
  rfl

/-- An attempt that the breaker keeps away is no transmission, and ends the request. -/
theorem run_attempts_rejected {rejection : Rejection Time} {after : Breaker Time}
    (kept : breaker.check prepared.host (plan.asked made) = (some rejection, after)) :
    (attempts config prepared number left).run plan.answer (breaker, made) =
      (.error (.circuitOpen (.str prepared.host) (.int rejection.failures)
        (.int rejection.threshold) (plan.written rejection.retryAfter)), after, made) := by
  rw [attempts_eq]
  simp only [once, Program.run, Plan.answer, kept]
  rfl

/-- The breaker is told of a failure before anything follows it. -/
theorem run_report_error {failure : Failure} {again : Bool}
    (judged : failure.retryable = .ok (some again)) {next : Option (Exchange Value)} :
    (report config prepared number next (.error failure)).run plan.answer (breaker, made) =
      (afterFailure config number failure next).run plan.answer
        (breaker.recordFailure prepared.host (plan.told made), made) := by
  simp only [report, isHttp_of_retryable judged, if_true]
  rfl

/-- Nothing follows a failure after which no attempt is allowed. -/
theorem afterFailure_spent {failure : Failure} {next : Option (Exchange Value)}
    (spent : config.strategy.allows (.int number) (some failure) = .ok false) :
    afterFailure config number failure next = .done (.error (finalFailure number failure)) := by
  simp only [afterFailure, spent]
  rfl

/-- A decisive outcome is the result of the request. -/
theorem run_report_decisive (retried : config.retries = .int retries)
    {outcome : Except Failure Value} (decisive : Decisive outcome)
    (next : Option (Exchange Value)) :
    ∃ last, (report config prepared number next outcome).run plan.answer (breaker, made) =
      (outcome, last, made) := by
  rcases decisive with ⟨value, rfl⟩ | ⟨failure, rfl, ends⟩
  · exact ⟨_, rfl⟩
  · have spent : config.strategy.allows (.int number) (some failure) = .ok false := by
      rw [allows_eq retried ends, Bool.and_false]
    have final : finalFailure number failure = failure := by simp [finalFailure, ends]
    rw [run_report_error ends, afterFailure_spent spent, final]
    exact ⟨_, rfl⟩

/-- The last of the attempts that a request may make ends it. -/
theorem run_report_exhausted (retried : config.retries = .int retries) (last : retries < number)
    {failure : Failure} (repeats : failure.retryable = .ok (some true))
    {next : Option (Exchange Value)} :
    (report config prepared number next (.error failure)).run plan.answer (breaker, made) =
      (.error (.retriesExhausted (.int number) (.inr failure)),
        breaker.recordFailure prepared.host (plan.told made), made) := by
  have spent : config.strategy.allows (.int number) (some failure) = .ok false := by
    rw [allows_eq retried repeats, decide_eq_false (by omega)]
    rfl
  have final : finalFailure number failure = .retriesExhausted (.int number) (.inr failure) := by
    simp [finalFailure, repeats]
  rw [run_report_error repeats, afterFailure_spent spent, final]
  rfl

/-- Any earlier attempt that may be repeated is followed by the next one. -/
theorem run_report_again (retried : config.retries = .int retries) (more : number ≤ retries)
    {failure : Failure} (repeats : failure.retryable = .ok (some true)) {seconds : Value}
    (delay : config.strategy.delay (.float 0.5) (.int number) = .ok seconds)
    (next : Exchange Value) :
    (report config prepared number (some next) (.error failure)).run plan.answer (breaker, made) =
      next.run plan.answer (breaker.recordFailure prepared.host (plan.told made), made) := by
  have allowed : config.strategy.allows (.int number) (some failure) = .ok true := by
    rw [allows_eq retried repeats, decide_eq_true more]
    rfl
  rw [run_report_error repeats]
  simp only [afterFailure, allowed, pause, delay]
  rfl

end Steps

section Allowance

/-- The end of a request from an attempt on: the first decisive outcome within the allowance, or the
bound that is reached first. -/
structure Spends (plan : Plan Time) (config : Config) (host : String)
    (retries room threshold made : Nat) (final : Except Failure Value × Breaker Time × Nat) :
    Prop where
  decides : ∀ last, made ≤ last → last < min (retries + 1) room →
    (∀ earlier, made ≤ earlier → earlier < last → Repeatable (plan.outcome config earlier)) →
    Decisive (plan.outcome config last) →
    final.1 = plan.outcome config last ∧ final.2.2 = last + 1
  exhausts : (∀ earlier, made ≤ earlier → earlier < min (retries + 1) room →
      Repeatable (plan.outcome config earlier)) →
    final.2.2 = min (retries + 1) room ∧
    (retries + 1 ≤ room → ∃ failure, plan.outcome config retries = .error failure ∧
      final.1 = .error (.retriesExhausted (.int ↑(retries + 1)) (.inr failure))) ∧
    (room < retries + 1 → ∃ retryAfter,
      final.1 = .error (.circuitOpen (.str host) (.int threshold) (.int threshold) retryAfter))

variable {plan : Plan Time} {config : Config} {prepared : Prepared} {breaker after : Breaker Time}
  {host : String} {failures retries room threshold made : Nat}

namespace Spends

theorem decided (within : made < min (retries + 1) room)
    (decisive : Decisive (plan.outcome config made)) :
    Spends plan config host retries room threshold made
      (plan.outcome config made, after, made + 1) where
  decides last from_ _ before _ := by
    obtain rfl | later := Nat.eq_or_lt_of_le from_
    · exact ⟨rfl, rfl⟩
    · exact (decisive.not_repeatable (before made (Nat.le_refl _) later)).elim
  exhausts all := (decisive.not_repeatable (all made (Nat.le_refl _) within)).elim

theorem again {final : Except Failure Value × Breaker Time × Nat}
    (repeats : Repeatable (plan.outcome config made))
    (later : Spends plan config host retries room threshold (made + 1) final) :
    Spends plan config host retries room threshold made final where
  decides last from_ within before decisive := by
    obtain rfl | beyond := Nat.eq_or_lt_of_le from_
    · exact (decisive.not_repeatable repeats).elim
    · exact later.decides last beyond within (fun earlier _ => before earlier (by omega)) decisive
  exhausts all := later.exhausts fun earlier _ => all earlier (by omega)

/-- After the last attempt that may be made. -/
theorem exhausted {failure : Failure} (fails : plan.outcome config retries = .error failure)
    (enough : retries + 1 ≤ room) :
    Spends plan config host retries room threshold (retries + 1)
      (.error (.retriesExhausted (.int ↑(retries + 1)) (.inr failure)), after, retries + 1) where
  decides last from_ within := by omega
  exhausts _ := ⟨(Nat.min_eq_left enough).symm, fun _ => ⟨failure, fails, rfl⟩, by omega⟩

/-- After the failure that opens the breaker, if more attempts may be made. -/
theorem rejected {retryAfter : Value} (short : room < retries + 1) :
    Spends plan config host retries room threshold room
      (.error (.circuitOpen (.str host) (.int threshold) (.int threshold) retryAfter), after, room) where
  decides last from_ within := by omega
  exhausts _ :=
    ⟨(Nat.min_eq_right (Nat.le_of_lt short)).symm, by omega, fun _ => ⟨retryAfter, rfl⟩⟩

end Spends

variable [Sub Time] [LT Time] [DecidableLT Time] [LE Time] [DecidableLE Time]

/-- An attempt with a decisive outcome is the last one. -/
theorem attempts_decided (retried : config.retries = .int retries) {left : Nat}
    (closed : breaker.Closed prepared.host failures) (within : made < min (retries + 1) room)
    (decisive : Decisive (plan.outcome config made)) :
    Spends plan config host retries room threshold made
      ((attempts config prepared ↑(made + 1) left).run plan.answer (breaker, made)) := by
  rw [run_attempts closed]
  obtain ⟨after, run⟩ : ∃ after, (report config prepared ↑(made + 1)
      (next? config prepared ↑(made + 1) left) (plan.outcome config made)).run plan.answer
        (breaker, made + 1) = (plan.outcome config made, after, made + 1) :=
    run_report_decisive retried decisive _
  rw [run]
  exact .decided within decisive

/-- By induction on the attempts that are left: the breaker has counted one failure for each of those
before. -/
theorem attempts_spend (retried : config.retries = .int retries)
    (delayed : ∀ number : Nat, 1 ≤ number → number ≤ retries →
      ∃ seconds, config.strategy.delay (.float 0.5) (.int number) = .ok seconds)
    (judged : ∀ made, Repeatable (plan.outcome config made) ∨ Decisive (plan.outcome config made))
    {left : Nat} (rest : made + left = retries) (limit : breaker.threshold = threshold)
    (brief : ∀ made, ¬ breaker.recovery ≤ plan.asked made - plan.told made)
    (closed : breaker.Closed prepared.host (failures + made)) (below : failures + made < threshold) :
    Spends plan config prepared.host retries (threshold - failures) threshold made
      ((attempts config prepared ↑(made + 1) left).run plan.answer (breaker, made)) := by
  rcases judged made with ⟨failure, fails, repeats⟩ | decisive
  case inr => exact attempts_decided retried closed (by omega) decisive
  induction left generalizing made breaker failure with
  | zero =>
      obtain rfl : made = retries := rest
      have last : (made : Int) < ↑(made + 1) := by omega
      rw [run_attempts closed, fails, run_report_exhausted retried last repeats]
      exact .again ⟨failure, fails, repeats⟩ (.exhausted fails (by omega))
  | succ left ih =>
      obtain ⟨seconds, delay⟩ := delayed (made + 1) (by omega) (by omega)
      rw [run_attempts closed, fails, next?, run_report_again retried (by omega) repeats delay]
      refine .again ⟨failure, fails, repeats⟩ ?_
      by_cases more : failures + made + 1 < threshold
      · have allows : ¬ breaker.threshold ≤ ↑(failures + made + 1) := by rw [limit]; omega
        have still := closed.recordFailure allows (plan.told (made + 1))
        rcases judged (made + 1) with ⟨next, fails, repeats⟩ | decisive
        · exact ih (by omega) limit brief still more next fails repeats
        · exact attempts_decided retried still (by omega) decisive
      · have full : made + 1 = threshold - failures := by omega
        have reached : breaker.threshold ≤ ↑(failures + made + 1) := by rw [limit]; omega
        have kept := closed.check_recordFailure reached (brief (made + 1))
        have counted : failures + made + 1 = threshold := by omega
        rw [run_attempts_rejected kept, limit, counted, full]
        exact .rejected (by omega)

/-- The addresses of an admitted host are judged before the first attempt. -/
theorem run_checkAddresses {state : Breaker Time × Nat}
    (cleared : mustResolve config host → judgeAddresses host (plan.addresses host) = .ok ()) :
    (checkAddresses config host).run plan.answer state = (.ok (), state) := by
  unfold checkAddresses
  split
  next resolves =>
    simp only [Program.run, Plan.answer, cleared resolves]
  next => rfl

/-- What follows a conversation that does not fail. -/
theorem run_andThen {α β : Type} {first : Exchange α} {second : α → Exchange β} {value : α}
    {state later : Breaker Time × Nat} (served : first.run plan.answer state = (.ok value, later)) :
    (Exchange.andThen first second).run plan.answer state = (second value).run plan.answer later := by
  unfold Exchange.andThen
  refine (Program.run_bind plan.answer first _ state).trans ?_
  rw [served]

theorem prepare_host {method : String} {url headers : Value} {body : Body}
    (ready : prepare config host method url headers body = .ok prepared) : prepared.host = host := by
  unfold prepare at ready
  obtain ⟨content, -, ready⟩ := bind_ok_iff.mp ready
  obtain ⟨fields, -, ready⟩ := bind_ok_iff.mp ready
  cases ready
  rfl

/-- A request that reaches its attempts ends with the first decisive outcome within its allowance: the
attempts that its retries permit, and the failures that the breaker of the host still takes. If there is
none, all of the allowance is spent. -/
theorem request_spends_allowance {url headers : Value} {method : String} {body : Body}
    (retried : config.retries = .int retries) (limit : breaker.threshold = threshold)
    (closed : breaker.Closed host failures) (below : failures < threshold)
    (brief : ∀ made, ¬ breaker.recovery ≤ plan.asked made - plan.told made)
    (delayed : ∀ number : Nat, 1 ≤ number → number ≤ retries →
      ∃ seconds, config.strategy.delay (.float 0.5) (.int number) = .ok seconds)
    (judged : ∀ made, Repeatable (plan.outcome config made) ∨ Decisive (plan.outcome config made))
    (admitted : admittedHost config url = .ok host)
    (cleared : mustResolve config host → judgeAddresses host (plan.addresses host) = .ok ())
    (ready : prepare config host (Text.upper method) url headers body = .ok prepared) :
    Spends plan config host retries (threshold - failures) threshold 0
      ((request config url method headers body).run plan.answer (breaker, 0)) := by
  have own := prepare_host ready
  subst own
  have bound : config.retryBound = retries := by
    rw [Config.retryBound, retried]
    rfl
  have run : (request config url method headers body).run plan.answer (breaker, 0) =
      (attempts config prepared ↑(0 + 1) retries).run plan.answer (breaker, 0) := by
    simp only [request, admitted]
    rw [run_andThen (run_checkAddresses cleared), ready, bound]
    rfl
  rw [run]
  exact attempts_spend retried delayed judged (Nat.zero_add _) limit brief closed below

end Allowance

/-- Delays that are counted in whole seconds grow as powers do, up to the greatest delay. -/
theorem delay_whole {config : Config} {base factor most : Int} (starts : config.retryDelay = .int base)
    (grows : config.multiplier = .int factor) (ends : config.maxRetryDelay = .int most)
    (number : Int) :
    config.strategy.delay (.float 0.5) (.int number) =
      .ok (.int (min (base * Number.powInt factor (max number 1 - 1).toNat) most)) := by
  -- whether a power is real is asked of the double next to its base, which takes long to compute
  have real (exponent : Int) : (Value.int factor).hasComplexPower (.int exponent) = false := by
    simp only [Value.hasComplexPower, Value.number?, Number.hasComplexPower]
    split
    next same => cases same
    next => rfl
  have growth (attempt : Int) : config.strategy.growth (.int attempt) =
      .ok (.int (base * Number.powInt factor (attempt - 1).toNat)) := by
    have less : (Value.int attempt).minus (.int 1) = .ok (.int (attempt - 1)) := rfl
    simp only [Config.strategy, Retry.Strategy.exponential, Retry.Strategy.growth, starts, grows,
      less, bind, Except.bind, real]
    rfl
  have capped (delay : Int) : (Value.int delay).least config.strategy.maxDelay =
      .ok (.int (min delay most)) := by
    rw [show config.strategy.maxDelay = .int most from ends, Value.least_int]
  unfold Retry.Strategy.delay
  simp only [Value.greatest_int, bind, Except.bind, growth, capped]
  rfl

/-- A client that tries three times, with delays of a second. -/
def threeTries : Config :=
  { retries := .int 2, retryDelay := .int 1, maxRetryDelay := .int 1, multiplier := .int 1 }

/-- Nobody answers. -/
def silence : Plan Nat where
  script _ := .timedOut
  asked made := 10 * made + 1
  told made := 10 * made
  addresses _ := .ok []
  written seconds := .int seconds

/-- A breaker that opens with the third failure, of which it has counted one. -/
def failedOnce : Breaker Nat :=
  Breaker.run [.fail "a.test" 0] (.empty 3 60)

/-- The breaker opens before the tries are used up. -/
theorem silence_opens :
    threeTries.retries = .int 2 ∧ failedOnce.threshold = 3 ∧ failedOnce.Closed "a.test" 1 ∧ 1 < 3 ∧
    (∀ made, ¬ failedOnce.recovery ≤ silence.asked made - silence.told made) ∧
    (∀ number : Nat, 1 ≤ number → number ≤ 2 →
      ∃ seconds, threeTries.strategy.delay (.float 0.5) (.int number) = .ok seconds) ∧
    (∀ made, Repeatable (silence.outcome threeTries made) ∨
      Decisive (silence.outcome threeTries made)) ∧
    admittedHost threeTries (.str "http://a.test/") = .ok "a.test" ∧
    mustResolve threeTries "a.test" = false ∧
    ∃ prepared, prepare threeTries "a.test" (Text.upper "get") (.str "http://a.test/") (.obj [])
        (.value .null) = .ok prepared ∧
    ∃ retryAfter after,
      (request threeTries (.str "http://a.test/") "get" (.obj []) (.value .null)).run
          silence.answer (failedOnce, 0) =
        (.error (.circuitOpen (.str "a.test") (.int 3) (.int 3) retryAfter), after, 2) := by
  have closed : failedOnce.Closed "a.test" 1 := .inr ⟨_, rfl, rfl, rfl⟩
  have brief made : ¬ failedOnce.recovery ≤ silence.asked made - silence.told made := by
    show ¬ 60 ≤ 10 * made + 1 - 10 * made
    omega
  have delayed (number : Nat) (_ : 1 ≤ number) (_ : number ≤ 2) :
      ∃ seconds, threeTries.strategy.delay (.float 0.5) (.int number) = .ok seconds :=
    ⟨_, delay_whole rfl rfl rfl number⟩
  have repeats made : Repeatable (silence.outcome threeTries made) := ⟨_, rfl, rfl⟩
  obtain ⟨prepared, ready⟩ : ∃ prepared, prepare threeTries "a.test" (Text.upper "get")
      (.str "http://a.test/") (.obj []) (.value .null) = .ok prepared := ⟨_, rfl⟩
  have unresolved : mustResolve threeTries "a.test" = false := rfl
  -- named, so that nothing makes the run compute
  obtain ⟨⟨result, after, made⟩, ran⟩ : ∃ final,
      (request threeTries (.str "http://a.test/") "get" (.obj []) (.value .null)).run
        silence.answer (failedOnce, 0) = final := ⟨_, rfl⟩
  have spends : Spends silence threeTries "a.test" 2 (3 - 1) 3 0 (result, after, made) := by
    rw [← ran]
    exact request_spends_allowance rfl rfl closed (by decide) brief delayed
      (fun made => .inl (repeats made)) rfl (by simp [unresolved]) ready
  obtain ⟨count, -, opens⟩ := spends.exhausts fun earlier _ _ => repeats earlier
  obtain ⟨retryAfter, rejects⟩ := opens (by decide)
  obtain rfl : made = 2 := count
  obtain rfl : result = _ := rejects
  exact ⟨rfl, rfl, closed, by decide, brief, delayed, fun made => .inl (repeats made), rfl,
    unresolved, prepared, ready, retryAfter, after, ran⟩

end Http

end Orchestra
