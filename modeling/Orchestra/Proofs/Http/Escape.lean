import Orchestra.Proofs.Http.Accounting
import Orchestra.Proofs.Value.Order

/-!
Transmissions that end in a failure that is none of the client's.

Time limits, faults of moving bytes and faults of the system never do, nor does an answer with a
status beyond success. An answer that was served does if its text cannot be read.
-/

namespace Orchestra.Http

open NetworkTurn

variable {config : Config} {response : Response} {cap : Value}

section Outcome

/-- One computation after the other fails where the first or the second does. -/
theorem bind_error_iff {α β : Type} {first : Except Failure α} {second : α → Except Failure β}
    {failure : Failure} :
    (first >>= second) = .error failure ↔
      first = .error failure ∨ ∃ value, first = .ok value ∧ second value = .error failure := by
  rcases first with fault | value
  · simp [bind, Except.bind]
  · simp [bind, Except.bind]

theorem bind_ok_iff {α β : Type} {first : Except Failure α} {second : α → Except Failure β}
    {result : β} :
    (first >>= second) = .ok result ↔ ∃ value, first = .ok value ∧ second value = .ok result := by
  rcases first with fault | value
  · simp [bind, Except.bind]
  · simp [bind, Except.bind]

theorem mapError_error_iff {ε α : Type} {first : Except ε α} {word : ε → Failure}
    {failure : Failure} :
    first.mapError word = .error failure ↔ ∃ fault, first = .error fault ∧ word fault = failure := by
  cases first with
  | error fault =>
      show Except.error (word fault) = .error failure ↔ _
      simp
  | ok value =>
      show Except.ok value = .error failure ↔ _
      simp

theorem mapError_ok_iff {ε α : Type} {first : Except ε α} {word : ε → Failure} {value : α} :
    first.mapError word = .ok value ↔ first = .ok value := by
  cases first with
  | error fault =>
      show Except.error (word fault) = .ok value ↔ _
      simp
  | ok found =>
      show Except.ok found = .ok value ↔ _
      simp

/-- A fault of the network layer becomes a failure of the client if it is a time limit or a fault of
moving bytes. -/
theorem attemptFailure_network_isHttp {fault : NetworkFault} {message : String} :
    (attemptFailure config (.foreign (.network fault) message)).isHttp ↔
      fault.isTimeout ∨ fault.isTransport := by
  show (if fault.isTimeout then Failure.requestTimeout config.timeout
    else if fault.isTransport then .transport ("Network error: " ++ message)
    else .foreign (.network fault) message).isHttp ↔ _
  cases timeout : fault.isTimeout <;> cases transport : fault.isTransport <;>
    simp [Failure.isHttp]

/-- Every fault of the system becomes a failure of the client. -/
theorem attemptFailure_system_isHttp (fault : SystemFault) (message : String) :
    (attemptFailure config (.foreign (.system fault) message)).isHttp := by
  cases fault <;> rfl

theorem operand_foreign (fault : OperandFault) : (Failure.operand fault).isHttp = false := by
  unfold Failure.operand
  split <;> rfl

/-- Sizes beyond the cap are a failure of the client; sizes without an order with it are not. -/
theorem checkSize_error {size : Int} {failure : Failure}
    (refuses : checkSize cap size = .error failure) :
    failure.isHttp ∨ ∃ fault, (Value.int size).greater cap = .error fault ∧
      failure = .operand fault := by
  unfold checkSize at refuses
  rcases compared : (Value.int size).greater cap with fault | exceeds
  · simp only [compared] at refuses
    cases refuses
    exact .inr ⟨fault, rfl, rfl⟩
  · simp only [compared] at refuses
    cases exceeds <;> cases refuses
    exact .inl rfl

theorem checkSize_int {most size : Int} (within : size ≤ most) :
    checkSize (.int most) size = .ok () := by
  have kept : decide (most < size) = false := decide_eq_false (Int.not_lt.mpr within)
  simp only [checkSize, Value.greater_int, kept]
  rfl

theorem declaredSize_foreign {failure : Failure}
    (refuses : declaredSize response = .error failure) : failure.isHttp = false := by
  unfold declaredSize at refuses
  dsimp only at refuses
  repeat' split at refuses
  all_goals cases refuses
  rfl

/-- A text that cannot be read is a failure that is none of the client's. -/
theorem decodeBody_foreign {contentType : Option String} {bytes : List UInt8} {failure : Failure}
    (refuses : decodeBody contentType bytes = .error failure) : failure.isHttp = false := by
  unfold decodeBody at refuses
  rcases bind_error_iff.mp refuses with undeclared | ⟨declared, -, unread⟩
  · obtain ⟨fault, -, rfl⟩ := mapError_error_iff.mp undeclared
    cases fault with
    | tooManyDigits => rfl
    | mixedNumbers later =>
        cases later
        · exact operand_foreign (.unordered "<" "NoneType" "int")
        · exact operand_foreign (.unordered "<" "int" "NoneType")
  rcases bind_error_iff.mp unread with unknown | ⟨text, -, unparsed⟩
  · obtain ⟨refusal, -, rfl⟩ := mapError_error_iff.mp unknown
    cases refusal <;> rfl
  unfold textValue at unparsed
  repeat' split at unparsed
  all_goals cases unparsed
  rfl

/-- Why an answer that was served has no value that can be told. -/
inductive Unreadable (cap : Value) (response : Response) : Failure → Prop where
  /-- The declared length has more digits than are read. -/
  | endless {failure} (declared : declaredSize response = .error failure) :
      Unreadable cap response failure
  /-- The declared length has no order with the cap. -/
  | unordered {size fault} (declared : declaredSize response = .ok (some size))
      (faulty : (Value.int size).greater cap = .error fault) :
      Unreadable cap response (.operand fault)
  /-- A piece of the body cannot be decoded, or its length has no order with the cap. -/
  | broken {size failure} (declared : declaredSize response = .ok size)
      (within : ∀ known, size = some known → checkSize cap known = .ok ())
      (stops : collect cap 0 response.pieces = .error failure) (foreign : failure.isHttp = false) :
      Unreadable cap response failure
  /-- The body is not taken as text, or it is too deep for the reader of values. -/
  | unread {size bytes failure} (declared : declaredSize response = .ok size)
      (within : ∀ known, size = some known → checkSize cap known = .ok ())
      (arrived : collect cap 0 response.pieces = .ok bytes)
      (refuses : decodeBody (response.header? "content-type") bytes = .error failure) :
      Unreadable cap response failure

/-- An answer that was served is read in three steps. -/
theorem value_eq (served : response.isSuccess) :
    response.value cap = (do
      let size ← declaredSize response
      size.forM (checkSize cap)
      let bytes ← collect cap 0 response.pieces
      decodeBody (response.header? "content-type") bytes) := by
  unfold Response.value
  simp only [served]
  rcases declaredSize response with _ | _ | size <;> rfl

/-- An answer fails in a way that is none of the client's exactly when it was served and cannot be
read. -/
theorem value_escapes_iff {failure : Failure} :
    (response.value cap = .error failure ∧ failure.isHttp = false) ↔
      response.isSuccess ∧ Unreadable cap response failure := by
  cases served : response.isSuccess with
  | false =>
      have refused : response.value cap =
          .error (.httpStatus (.int response.status) (.str response.reason)) := by
        simp only [Response.value, served]
        rfl
      refine iff_of_false ?_ (by simp)
      rintro ⟨same, foreign⟩
      obtain rfl := Except.error.inj (refused.symm.trans same)
      cases foreign
  | true =>
      rw [value_eq served]
      constructor
      · rintro ⟨fails, foreign⟩
        refine ⟨rfl, ?_⟩
        rcases bind_error_iff.mp fails with endless | ⟨size, declared, fails⟩
        · exact .endless endless
        rcases bind_error_iff.mp fails with exceeds | ⟨⟨⟩, within, fails⟩
        · cases size with
          | none => cases exceeds
          | some size =>
              rcases checkSize_error exceeds with http | ⟨fault, faulty, rfl⟩
              · simp [http] at foreign
              · exact .unordered declared faulty
        have kept : ∀ known, size = some known → checkSize cap known = .ok () := by
          rintro known rfl
          exact within
        rcases bind_error_iff.mp fails with stops | ⟨bytes, arrived, refuses⟩
        · exact .broken declared kept stops foreign
        · exact .unread declared kept arrived refuses
      · rintro ⟨-, unreadable⟩
        have passed : ∀ {size : Option Int},
            (∀ known, size = some known → checkSize cap known = .ok ()) →
              size.forM (checkSize cap) = .ok () := by
          intro size within
          cases size with
          | none => rfl
          | some known => exact within known rfl
        cases unreadable with
        | endless declared =>
            exact ⟨bind_error_iff.mpr (.inl declared), declaredSize_foreign declared⟩
        | @unordered size fault declared faulty =>
            refine ⟨bind_error_iff.mpr (.inr ⟨_, declared, bind_error_iff.mpr (.inl ?_)⟩),
              operand_foreign fault⟩
            show checkSize cap size = _
            simp only [checkSize, faulty]
            rfl
        | broken declared within stops foreign =>
            refine ⟨bind_error_iff.mpr (.inr ⟨_, declared, bind_error_iff.mpr (.inr ⟨(), ?_⟩)⟩),
              foreign⟩
            exact ⟨passed within, bind_error_iff.mpr (.inl stops)⟩
        | unread declared within arrived refuses =>
            refine ⟨bind_error_iff.mpr (.inr ⟨_, declared, bind_error_iff.mpr (.inr ⟨(), ?_⟩)⟩),
              decodeBody_foreign refuses⟩
            exact ⟨passed within, bind_error_iff.mpr (.inr ⟨_, arrived, refuses⟩)⟩

/-- A transmission that fails or is answered becomes a value or a failure of the client, unless it
failed in another way, sent the client to a place that is none, or cannot be read. -/
theorem escape?_iff {request : Except Failure Outgoing} {limit : Value}
    {transmission : Transmission} {failure : Failure} :
    (transmitted request limit transmission).escape? config = some failure ↔
      failure.isHttp = false ∧
      ((∃ cause, transmission = .failed cause ∧ attemptFailure config cause = failure) ∨
        ∃ response, transmission = .answered response ∧
          ((∃ cause, badRedirection? response = some cause ∧
              attemptFailure config cause = failure) ∨
            badRedirection? response = none ∧ response.isSuccess ∧
              Unreadable config.maxPayload response failure)) := by
  have outcome : (transmitted request limit transmission).escape? config = some failure ↔
      failure.isHttp = false ∧ transmission.outcome config = .error failure := by
    simp only [NetworkTurn.escape?, transmitted]
    rcases transmission.outcome config with fault | value
    · cases http : fault.isHttp with
      | false =>
          have own : fault = failure ↔ failure.isHttp = false ∧ fault = failure := by
            refine ⟨fun same => ⟨?_, same⟩, And.right⟩
            rwa [← same]
          simpa only [http, Bool.false_eq_true, if_false, Option.some.injEq, Except.error.injEq] using own
      | true =>
          refine iff_of_false (by simp [http]) ?_
          rintro ⟨foreign, same⟩
          obtain rfl := Except.error.inj same
          cases http.symm.trans foreign
    · simp
  rw [outcome]
  refine and_congr_right fun foreign => ?_
  cases transmission with
  | timedOut =>
      have http : ∀ fault : Value, Failure.requestTimeout fault ≠ failure := by
        rintro fault rfl
        cases foreign
      simp [Transmission.outcome, http]
  | failed cause => simp [Transmission.outcome]
  | answered response =>
      rcases strays : badRedirection? response with _ | cause
      · have reads : response.value config.maxPayload = .error failure ↔
            response.isSuccess ∧ Unreadable config.maxPayload response failure := by
          rw [← value_escapes_iff]
          exact (and_iff_left foreign).symm
        simp [Transmission.outcome, strays, reads]
      · simp [Transmission.outcome, strays]

end Outcome

/-- A text in a character set that nobody knows. -/
def unknownText : Response where
  status := 200
  reason := "OK"
  headers := [("content-type", "text/plain; charset=no-such")]
  chunks := [[104, 105]]

/-- A client that tries once, and whose breakers open at once. -/
def singleTry : Config :=
  { retries := .int 0, threshold := .int 1 }

/-- A breaker that has opened with one failure. -/
def opened : Breaker Nat :=
  Breaker.run [.fail "a.test" 0] (.empty 1 60)

def unknownFailure : Failure :=
  .foreign .lookup "unknown encoding: no-such"

theorem unknownText_outcome :
    (Transmission.answered unknownText).outcome singleTry = .error unknownFailure := by
  have pieces : unknownText.pieces = [.ok [104, 105]] := rfl
  have within : checkSize singleTry.maxPayload ((0 + 2 : Nat) : Int) = .ok () :=
    checkSize_int (by decide)
  have arrived : collect singleTry.maxPayload 0 unknownText.pieces = .ok [104, 105] := by
    rw [pieces, collect]
    refine (bind_ok_iff.mpr ⟨_, rfl, bind_ok_iff.mpr ⟨_, within, ?_⟩⟩)
    rfl
  have unread : decodeBody (unknownText.header? "content-type") [104, 105] =
      .error unknownFailure := rfl
  show unknownText.value singleTry.maxPayload = _
  rw [value_eq rfl]
  refine bind_error_iff.mpr (.inr ⟨none, rfl, bind_error_iff.mpr (.inr ⟨(), rfl, ?_⟩)⟩)
  exact bind_error_iff.mpr (.inr ⟨_, arrived, unread⟩)

theorem unknownText_escapes {request : Except Failure Outgoing} {limit : Value} :
    (transmitted request limit (.answered unknownText)).escape? singleTry = some unknownFailure := by
  have outcome := unknownText_outcome
  simp only [NetworkTurn.escape?, transmitted, outcome]
  rfl

/-- A probe is answered with a text that nobody knows how to read. -/
theorem unknownText_talks : ∃ request,
    Talks (Http.request singleTry (.str "http://a.test/") "GET" (.obj []) (.value .null))
      [permitted "a.test" (.ok ()),
        transmitted request singleTry.timeout (.answered unknownText)] (.error unknownFailure) := by
  obtain ⟨prepared, ready, own⟩ : ∃ prepared, prepare singleTry "a.test" (Text.upper "GET")
      (.str "http://a.test/") (.obj []) (.value .null) = .ok prepared ∧ prepared.host = "a.test" :=
    ⟨_, rfl, rfl⟩
  have admitted : admittedHost singleTry (.str "http://a.test/") = .ok "a.test" := rfl
  have talks := talks_escape admitted rfl ready unknownText_outcome rfl
  rw [own] at talks
  exact ⟨_, talks⟩

/-- The breaker admits the probe after its recovery time. -/
theorem unknownText_serves {request : Except Failure Outgoing} : ∃ last,
    Serves opened [permitted "a.test" (.ok ()),
      transmitted request singleTry.timeout (.answered unknownText)] last ∧
      ¬ Breaker.Unclaimed last "a.test" := by
  refine ⟨(opened.check "a.test" 60).2, .admitted 60 rfl (.passed rfl (fun _ => rfl) (.nil _)), ?_⟩
  intro unclaimed
  cases unclaimed ⟨1, 0, .halfOpen, some 60⟩ rfl

/-- An answer in an unknown character set ends a probe in a failure that is none of the client's. The
breaker is not told, and the slot stays claimed after the end of the request. -/
theorem unknown_charset_leaves_probe :
    ∃ log : List NetworkTurn, Talks (request singleTry (.str "http://a.test/") "GET" (.obj []) (.value .null)) log
        (.error unknownFailure) ∧ unknownFailure.isHttp = false ∧
      ¬ Accounted "a.test" log ∧ Breaker.Unclaimed opened "a.test" ∧
      ∃ last, Serves opened log last ∧ ¬ Breaker.Unclaimed last "a.test" := by
  obtain ⟨request, talks⟩ := unknownText_talks
  refine ⟨_, talks, rfl, fun accounted => ?_, ?_, unknownText_serves⟩
  · cases (accounted_cons_iff.mp accounted).1 rfl
  · exact Breaker.unclaimed_recordFailure _ "a.test" 0

/-- The request is not accounted for, because its last transmission escapes. -/
theorem unknown_charset_escapes :
    ∃ log : List NetworkTurn, Talks (request singleTry (.str "http://a.test/") "GET" (.obj []) (.value .null)) log
        (.error unknownFailure) ∧
      (∃ turn ∈ log, turn.escape? singleTry = some unknownFailure ∧ log.getLast? = some turn) ∧
      ¬ ∀ host, Accounted host log := by
  obtain ⟨request, talks⟩ := unknownText_talks
  have facts := @request_accounted_iff Nat _ _ _ _ _ singleTry (.str "http://a.test/") "GET"
    (.obj []) (.value .null) _ _ talks
  have member : transmitted request singleTry.timeout (.answered unknownText) ∈
      [permitted "a.test" (.ok ()),
        transmitted request singleTry.timeout (.answered unknownText)] := List.mem_of_getLast? rfl
  have last := facts.2.1 _ member _ unknownText_escapes
  refine ⟨_, talks, ⟨_, member, unknownText_escapes, last.1⟩, fun accounted => ?_⟩
  cases (facts.1.mp accounted _ member).symm.trans unknownText_escapes

end Orchestra.Http
