import Orchestra.Proofs.Breaker.Claim
import Orchestra.Proofs.Http.Tries

/-!
What the breaker is told of the tries that it admits.

Each admitted try tells it of one outcome before the next try or the end of the request, unless the
transmission ends in a failure that is none of the client's. Such a failure ends the request as it
is, and a slot that was claimed for a probe stays claimed.
-/

namespace Orchestra.Http

open NetworkTurn

namespace NetworkTurn

/-- The breaker is asked to admit a try. -/
def asks (turn : NetworkTurn) : Bool :=
  match turn with
  | ⟨.permit _, _⟩ => true
  | _ => false

/-- The breaker admits a try for a host. -/
def admits (host : String) (turn : NetworkTurn) : Bool :=
  match turn with
  | ⟨.permit other, .ok ()⟩ => other == host
  | _ => false

/-- The breaker is told of an outcome for a host. -/
def reports (host : String) (turn : NetworkTurn) : Bool :=
  match turn with
  | ⟨.settle other _, _⟩ => other == host
  | _ => false

/-- The failure of a transmission that is none of the client's. -/
def escape? (config : Config) (turn : NetworkTurn) : Option Failure :=
  match turn with
  | ⟨.transmit _ _, transmission⟩ =>
    match transmission.outcome config with
    | .ok _ => none
    | .error failure => if failure.isHttp then none else some failure
  | _ => none

end NetworkTurn

/-- How many outcomes the breaker is told of for a host before it is asked again. -/
def reportsNext (host : String) (log : List NetworkTurn) : Nat :=
  (log.takeWhile fun turn => !turn.asks).countP (·.reports host)

theorem reportsNext_cons {host : String} {turn : NetworkTurn} (unasked : turn.asks = false)
    (log : List NetworkTurn) :
    reportsNext host (turn :: log) = reportsNext host log + if turn.reports host then 1 else 0 := by
  simp [reportsNext, unasked, List.countP_cons]

theorem reportsNext_skip {host : String} {turn : NetworkTurn} (unasked : turn.asks = false)
    (untold : turn.reports host = false) (log : List NetworkTurn) :
    reportsNext host (turn :: log) = reportsNext host log := by
  simp [reportsNext_cons unasked, untold]

/-- Each try that is admitted for a host is followed by one report. -/
def Accounted (host : String) (log : List NetworkTurn) : Prop :=
  ∀ past turn later, log = past ++ turn :: later → turn.admits host → reportsNext host later = 1

theorem accounted_nil (host : String) : Accounted host [] := by
  intro past turn later split
  simp at split

theorem accounted_cons_iff {host : String} {turn : NetworkTurn} {log : List NetworkTurn} :
    Accounted host (turn :: log) ↔
      (turn.admits host → reportsNext host log = 1) ∧ Accounted host log := by
  constructor
  · intro accounted
    refine ⟨accounted [] turn log rfl, fun past other later split => ?_⟩
    exact accounted (turn :: past) other later (congrArg (turn :: ·) split)
  · rintro ⟨first, rest⟩ past other later split
    cases past with
    | nil =>
        obtain ⟨rfl, rfl⟩ := List.cons_eq_cons.mp split
        exact first
    | cons _ past =>
        obtain ⟨rfl, same⟩ := List.cons_eq_cons.mp split
        exact rest past other later same

section Tries

variable {config : Config} {prepared : Prepared} {number : Int} {left : Nat}
  {log : List NetworkTurn} {result : Except Failure Value}

theorem Tries.opens (tries : Tries config prepared number left log result) :
    ∃ answer rest, log = permitted prepared.host answer :: rest := by
  cases tries <;> exact ⟨_, _, rfl⟩

theorem Tries.reportsNext_eq (tries : Tries config prepared number left log result)
    (host : String) : reportsNext host log = 0 := by
  obtain ⟨answer, rest, rfl⟩ := tries.opens
  rfl

/-- A try that told the breaker of its outcome leaves the rest to be accounted for. -/
theorem accounted_told_iff {request : Except Failure Outgoing} {limit : Value}
    {transmission : Transmission} {success : Bool} {told : Except Failure Unit} (own : String)
    (kept : escape? config (transmitted request limit transmission) = none)
    (unreported : ∀ host, reportsNext host log = 0)
    (rest : (∀ host, Accounted host log) ↔ ∀ turn ∈ log, turn.escape? config = none) :
    (∀ host, Accounted host (permitted own (.ok ()) :: transmitted request limit transmission ::
        settled own success told :: log)) ↔
      ∀ turn ∈ permitted own (.ok ()) :: transmitted request limit transmission ::
        settled own success told :: log, turn.escape? config = none := by
  have once : ∀ host, own = host →
      reportsNext host (transmitted request limit transmission :: settled own success told :: log) =
        1 := by
    rintro host rfl
    rw [reportsNext_cons rfl, reportsNext_cons rfl, unreported]
    simp [reports, transmitted, settled]
  have first : ∀ host, Accounted host (permitted own (.ok ()) ::
      transmitted request limit transmission :: settled own success told :: log) ↔
        Accounted host log := by
    intro host
    rw [accounted_cons_iff, accounted_cons_iff, accounted_cons_iff]
    simpa [admits, permitted, transmitted, settled] using fun _ => once host
  simp only [first, rest, List.forall_mem_cons, kept]
  simp [escape?, permitted, settled]

/-- All tries are accounted for exactly when none of them ends in a failure that is none of the
client's. -/
theorem Tries.accounted_iff (tries : Tries config prepared number left log result) :
    (∀ host, Accounted host log) ↔ ∀ turn ∈ log, turn.escape? config = none := by
  have finished : (∀ host, Accounted host []) ↔
      ∀ turn ∈ ([] : List NetworkTurn), turn.escape? config = none :=
    iff_of_true accounted_nil (by simp)
  have waiting : ∀ {seconds answer rest}, ((∀ host, Accounted host rest) ↔
      ∀ turn ∈ rest, turn.escape? config = none) →
      ((∀ host, Accounted host (waited seconds answer :: rest)) ↔
        ∀ turn ∈ waited seconds answer :: rest, turn.escape? config = none) := by
    intro seconds answer rest same
    simpa [accounted_cons_iff, admits, escape?, waited] using same
  induction tries with
  | rejected rejection =>
      refine iff_of_true (fun host => ?_) ?_
      · simp [accounted_cons_iff, accounted_nil, admits, permitted]
      · simp [escape?, permitted]
  | escaped fails foreign =>
      refine iff_of_false (fun accounted => ?_) (fun kept => ?_)
      · have told := (accounted_cons_iff.mp (accounted prepared.host)).1 (beq_self_eq_true _)
        cases told
      · have escapes := kept _ (List.mem_cons_of_mem _ List.mem_cons_self)
        simp [escape?, transmitted, fails, foreign] at escapes
  | served serves told =>
      exact accounted_told_iff prepared.host (by simp [escape?, transmitted, serves])
        (fun _ => rfl) finished
  | uncounted fails http fault =>
      exact accounted_told_iff prepared.host (by simp [escape?, transmitted, fails, http])
        (fun _ => rfl) finished
  | ended fails http ends =>
      exact accounted_told_iff prepared.host (by simp [escape?, transmitted, fails, http])
        (fun _ => rfl) finished
  | unwaited fails http allowed delay fault =>
      exact accounted_told_iff prepared.host (by simp [escape?, transmitted, fails, http])
        (fun _ => rfl) (waiting finished)
  | again fails http allowed delay later ih =>
      exact accounted_told_iff prepared.host (by simp [escape?, transmitted, fails, http])
        (fun host => later.reportsNext_eq host) (waiting ih)

/-- A failure that is none of the client's is the last of a request, and its result. -/
theorem Tries.escape_last (tries : Tries config prepared number left log result)
    {turn : NetworkTurn} (member : turn ∈ log) {failure : Failure}
    (escapes : turn.escape? config = some failure) :
    log.getLast? = some turn ∧ result = .error failure := by
  induction tries with
  | rejected =>
      obtain rfl := List.mem_singleton.mp member
      cases escapes
  | @escaped _ _ transmission other fails foreign =>
      simp only [List.mem_cons, List.not_mem_nil, or_false] at member
      rcases member with rfl | rfl
      · cases escapes
      · have same : other = failure := by
          simpa [escape?, transmitted, fails, foreign] using escapes
        exact ⟨rfl, congrArg Except.error same⟩
  | served serves | uncounted serves http | ended serves http | unwaited serves http =>
      simp only [List.mem_cons, List.not_mem_nil, or_false] at member
      rcases member with rfl | rfl | rfl | rfl
      all_goals simp_all [escape?, permitted, transmitted, settled, waited]
  | again fails http allowed delay later ih =>
      rcases List.mem_append.mp member with early | late
      · simp only [List.mem_cons, List.not_mem_nil, or_false] at early
        rcases early with rfl | rfl | rfl | rfl
        all_goals simp_all [escape?, permitted, transmitted, settled, waited]
      · obtain ⟨last, same⟩ := ih late
        obtain ⟨answer, rest, rfl⟩ := later.opens
        exact ⟨by simpa using last, same⟩

/-- A failure that the client itself does not make: the breaker, a delay or the configuration
fails. -/
inductive Faulty (config : Config) (log : List NetworkTurn) : Failure → Prop where
  | permitting {host failure} (asked : permitted host (.error failure) ∈ log) :
      Faulty config log failure
  | counting {host success failure} (told : settled host success (.error failure) ∈ log) :
      Faulty config log failure
  | waiting {seconds failure} (waits : waited seconds (.error failure) ∈ log) :
      Faulty config log failure
  | allowing {number failure fault}
      (unordered : config.strategy.allows (.int number) (some failure) = .error fault) :
      Faulty config log (.operand fault)
  | delaying {number fault}
      (undelayed : config.strategy.delay (.float 0.5) (.int number) = .error fault) :
      Faulty config log (.operand fault)
  | judging {failure : Failure} {fault} (unordered : failure.retryable = .error fault) :
      Faulty config log (.operand fault)

theorem Faulty.mono {more : List NetworkTurn} {failure : Failure}
    (faulty : Faulty config log failure) (included : log ⊆ more) : Faulty config more failure := by
  cases faulty with
  | permitting asked => exact .permitting (included asked)
  | counting told => exact .counting (included told)
  | waiting waits => exact .waiting (included waits)
  | allowing unordered => exact .allowing unordered
  | delaying undelayed => exact .delaying undelayed
  | judging unordered => exact .judging unordered

/-- The last failure is the client's own, unless it is a fault of the configuration. -/
theorem GivesUp.isHttp_or_faulty {failure last : Failure}
    (ends : GivesUp config number left failure last) (http : failure.isHttp) :
    last.isHttp ∨ Faulty config log last := by
  cases ends with
  | unordered faulty => exact .inr (.allowing faulty)
  | undelayed _ faulty => exact .inr (.delaying faulty)
  | spent =>
      unfold finalFailure
      split
      · exact .inl rfl
      · exact .inl http
      next fault unordered => exact .inr (.judging unordered)

/-- Tries end with a value, with a failure of the client, or with a fault that is named here. -/
theorem Tries.result_cases (tries : Tries config prepared number left log result)
    {failure : Failure} (fails : result = .error failure) :
    failure.isHttp ∨ (∃ turn ∈ log, turn.escape? config = some failure) ∨
      Faulty config log failure := by
  induction tries with
  | rejected rejection =>
      obtain rfl := Except.error.inj fails
      exact .inr (.inr (.permitting List.mem_cons_self))
  | @escaped _ _ transmission _ outcome foreign =>
      obtain rfl := Except.error.inj fails
      refine .inr (.inl ⟨_, List.mem_cons_of_mem _ List.mem_cons_self, ?_⟩)
      simp [escape?, transmitted, outcome, foreign]
  | served _ told =>
      cases told with
      | ok => cases fails
      | error fault =>
          obtain rfl := Except.error.inj fails
          exact .inr (.inr (.counting (List.mem_cons_of_mem _ (List.mem_cons_of_mem _ List.mem_cons_self))))
  | uncounted _ _ fault =>
      obtain rfl := Except.error.inj fails
      exact .inr (.inr (.counting (List.mem_cons_of_mem _ (List.mem_cons_of_mem _ List.mem_cons_self))))
  | ended _ http ends =>
      obtain rfl := Except.error.inj fails
      exact (ends.isHttp_or_faulty http).imp_right .inr
  | unwaited _ _ _ _ fault =>
      obtain rfl := Except.error.inj fails
      exact .inr (.inr (.waiting (List.mem_of_getLast? rfl)))
  | again _ _ _ _ later ih =>
      rcases ih fails with http | ⟨turn, member, escapes⟩ | faulty
      · exact .inl http
      · exact .inr (.inl ⟨turn, List.mem_append_right _ member, escapes⟩)
      · exact .inr (.inr (faulty.mono (List.subset_append_right _ _)))

end Tries

section Breaker

variable {Time : Type} [Sub Time] [LT Time] [DecidableLT Time] [LE Time] [DecidableLE Time]

/-- A breaker that is asked and told in a talk, at any times. -/
inductive Serves : Breaker Time → List NetworkTurn → Breaker Time → Prop where
  | nil (breaker) : Serves breaker [] breaker
  | admitted {breaker host log last} (now : Time) (passes : (breaker.check host now).1 = none)
      (later : Serves (breaker.check host now).2 log last) :
      Serves breaker (permitted host (.ok ()) :: log) last
  | rejected {breaker host failure log last} (later : Serves breaker log last) :
      Serves breaker (permitted host (.error failure) :: log) last
  | succeeded {breaker host told log last} (later : Serves (breaker.recordSuccess host) log last) :
      Serves breaker (settled host true told :: log) last
  | failed {breaker host told log last} (now : Time)
      (later : Serves (breaker.recordFailure host now) log last) :
      Serves breaker (settled host false told :: log) last
  | passed {breaker turn log last} (unasked : turn.asks = false)
      (untold : ∀ host, turn.reports host = false) (later : Serves breaker log last) :
      Serves breaker (turn :: log) last

/-- A talk that is accounted for gives back every slot that it claimed. -/
theorem Serves.unclaimed {first breaker last : Breaker Time} {host : String}
    {log : List NetworkTurn} (serves : Serves breaker log last) (accounted : Accounted host log)
    (orderly : Breaker.Orderly breaker)
    (either : (breaker.entry? host = first.entry? host ∨ Breaker.Unclaimed breaker host) ∨
      reportsNext host log = 1) :
    last.entry? host = first.entry? host ∨ Breaker.Unclaimed last host := by
  induction serves with
  | nil breaker => exact either.resolve_right (by simp [reportsNext])
  | @admitted breaker other log last now passes later ih =>
      have closed := either.resolve_right (by simp [reportsNext, asks, permitted])
      obtain ⟨reported, rest⟩ := accounted_cons_iff.mp accounted
      refine ih rest (orderly.check other now) ?_
      by_cases own : host = other
      · subst own
        exact .inr (reported (beq_self_eq_true host))
      · refine .inl ?_
        simpa only [Breaker.Unclaimed, Breaker.entry?_check_other own] using closed
  | rejected later ih =>
      have closed := either.resolve_right (by simp [reportsNext, asks, permitted])
      exact ih (accounted_cons_iff.mp accounted).2 orderly (.inl closed)
  | @succeeded breaker other told log last later ih =>
      refine ih (accounted_cons_iff.mp accounted).2 (orderly.recordSuccess other) ?_
      by_cases own : host = other
      · subst own
        exact .inl (.inr (orderly.unclaimed_recordSuccess host))
      · have elsewhere : (settled other true told).reports host = false :=
          beq_false_of_ne (Ne.symm own)
        rw [reportsNext_skip rfl elsewhere] at either
        simpa only [Breaker.Unclaimed, Breaker.entry?_recordSuccess_other own] using either
  | @failed breaker other told log last now later ih =>
      refine ih (accounted_cons_iff.mp accounted).2 (orderly.recordFailure other now) ?_
      by_cases own : host = other
      · subst own
        exact .inl (.inr (Breaker.unclaimed_recordFailure breaker host now))
      · have elsewhere : (settled other false told).reports host = false :=
          beq_false_of_ne (Ne.symm own)
        rw [reportsNext_skip rfl elsewhere] at either
        simpa only [Breaker.Unclaimed, Breaker.entry?_recordFailure_other own] using either
  | passed unasked untold later ih =>
      rw [reportsNext_skip unasked (untold host)] at either
      exact ih (accounted_cons_iff.mp accounted).2 orderly either

end Breaker

section Request

variable {config : Config} {url headers : Value} {method : String} {body : Body} {host : String}

theorem admittedHost_isHttp {failure : Failure}
    (refuses : admittedHost config url = .error failure) : failure.isHttp := by
  unfold admittedHost at refuses
  repeat' split at refuses
  all_goals cases refuses
  all_goals rfl

theorem judgeAddresses_isHttp {answer : Except Failure (List Value)} {failure : Failure}
    (refuses : judgeAddresses host answer = .error failure) : failure.isHttp := by
  unfold judgeAddresses at refuses
  repeat' split at refuses
  all_goals cases refuses
  all_goals rfl

/-- The addresses of a host are looked up without the breaker. -/
theorem Cleared.accounted {lookup log : List NetworkTurn} (cleared : Cleared config host lookup)
    (other : String) : Accounted other (lookup ++ log) ↔ Accounted other log := by
  cases cleared with
  | unasked => rfl
  | judged => simp [accounted_cons_iff, admits, resolved]

theorem Cleared.escape? {lookup : List NetworkTurn} (cleared : Cleared config host lookup)
    {turn : NetworkTurn} (member : turn ∈ lookup) : turn.escape? config = none := by
  cases cleared with
  | unasked => cases member
  | judged =>
      obtain rfl := List.mem_singleton.mp member
      rfl

theorem escape?_foreign {turn : NetworkTurn} {failure : Failure}
    (escapes : turn.escape? config = some failure) : failure.isHttp = false := by
  unfold NetworkTurn.escape? at escapes
  repeat' split at escapes
  all_goals simp_all

section Requested

variable {log : List NetworkTurn} {result : Except Failure Value}

theorem Requested.accounted_iff (requested : Requested config url method headers body log result) :
    (∀ host, Accounted host log) ↔ ∀ turn ∈ log, turn.escape? config = none := by
  cases requested with
  | refused => exact iff_of_true accounted_nil (by simp)
  | internal =>
      refine iff_of_true (fun host => ?_) (List.forall_mem_singleton.mpr rfl)
      simp [accounted_cons_iff, accounted_nil, admits, resolved]
  | @unprepared host _ _ _ cleared =>
      refine iff_of_true (fun other => ?_) fun _ => cleared.escape?
      rw [← List.append_nil log, cleared.accounted]
      exact accounted_nil other
  | @tried host lookup prepared rest result _ cleared _ tries =>
      have looked : ∀ turn ∈ lookup, turn.escape? config = none := fun _ => cleared.escape?
      simp only [cleared.accounted, tries.accounted_iff, List.forall_mem_append]
      exact (and_iff_right looked).symm

theorem Requested.escape_last (requested : Requested config url method headers body log result)
    {turn : NetworkTurn} (member : turn ∈ log) {failure : Failure}
    (escapes : turn.escape? config = some failure) :
    log.getLast? = some turn ∧ result = .error failure := by
  cases requested with
  | refused => cases member
  | internal =>
      obtain rfl := List.mem_singleton.mp member
      cases escapes
  | unprepared _ cleared => cases (cleared.escape? member).symm.trans escapes
  | tried _ cleared _ tries =>
      rcases List.mem_append.mp member with early | late
      · cases (cleared.escape? early).symm.trans escapes
      · obtain ⟨last, same⟩ := tries.escape_last late escapes
        obtain ⟨answer, rest, rfl⟩ := tries.opens
        exact ⟨by simpa using last, same⟩

theorem Requested.result_cases (requested : Requested config url method headers body log result)
    {failure : Failure} (fails : result = .error failure) :
    failure.isHttp ∨ (∃ turn ∈ log, turn.escape? config = some failure) ∨
      Faulty config log failure ∨
      ∃ host, prepare config host (Text.upper method) url headers body = .error failure := by
  cases requested with
  | refused refuses =>
      obtain rfl := Except.error.inj fails
      exact .inl (admittedHost_isHttp refuses)
  | internal _ _ judged =>
      obtain rfl := Except.error.inj fails
      exact .inl (judgeAddresses_isHttp judged)
  | unprepared _ _ refuses =>
      obtain rfl := Except.error.inj fails
      exact .inr (.inr (.inr ⟨_, refuses⟩))
  | tried _ _ _ tries =>
      rcases tries.result_cases fails with http | ⟨turn, member, escapes⟩ | faulty
      · exact .inl http
      · exact .inr (.inl ⟨turn, List.mem_append_right _ member, escapes⟩)
      · exact .inr (.inr (.inl (faulty.mono (List.subset_append_right _ _))))

end Requested

/-- However the network and the breaker answer, a request tells the breaker of one outcome for every
try that was admitted, exactly as long as no transmission ends in a failure that is none of the
client's. Such a failure is the last of the request, and its result. Any other request ends with a
value, with a failure of the client, or with a fault that is named here. A breaker that is told of
every outcome has given back all slots that the request claimed. -/
theorem request_accounted_iff {Time : Type} [Sub Time] [LT Time] [DecidableLT Time] [LE Time]
    [DecidableLE Time] (config : Config) (url : Value) (method : String) (headers : Value)
    (body : Body) {log : List NetworkTurn} {result : Except Failure Value}
    (talks : Talks (request config url method headers body) log result) :
    ((∀ host, Accounted host log) ↔ ∀ turn ∈ log, turn.escape? config = none) ∧
    (∀ turn ∈ log, ∀ failure, turn.escape? config = some failure →
      log.getLast? = some turn ∧ result = .error failure ∧ failure.isHttp = false) ∧
    (∀ failure, result = .error failure → failure.isHttp ∨
      (∃ turn ∈ log, turn.escape? config = some failure) ∨ Faulty config log failure ∨
      ∃ host, prepare config host (Text.upper method) url headers body = .error failure) ∧
    (∀ (threshold : Int) (recovery : Time) operations last host,
      Serves (Breaker.run operations (.empty threshold recovery)) log last → Accounted host log →
      last.entry? host = Breaker.entry? (Breaker.run operations (.empty threshold recovery)) host ∨
        Breaker.Unclaimed last host) := by
  have requested := talks_request talks
  refine ⟨requested.accounted_iff, ?_, fun failure => requested.result_cases, ?_⟩
  · intro turn member failure escapes
    obtain ⟨last, same⟩ := requested.escape_last member escapes
    exact ⟨last, same, escape?_foreign escapes⟩
  · intro threshold recovery operations last host serves accounted
    exact serves.unclaimed accounted (Breaker.orderly_run threshold recovery operations)
      (.inl (.inl rfl))

end Request

end Orchestra.Http
