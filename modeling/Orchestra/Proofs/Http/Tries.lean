import Orchestra.Http.Client
import Orchestra.Proofs.Talk

/-!
The tries of an HTTP request, as talks with the network.

A try that the breaker admits is one transmission. Its outcome is reported to the breaker if it is a
value or a failure of the client, and the request goes on from there. Any other failure ends the
request at once.
-/

namespace Orchestra.Http

variable {config : Config} {prepared : Prepared}

/-- A turn of a talk with the network. -/
abbrev NetworkTurn := Turn network

namespace NetworkTurn

def permitted (host : String) (answer : Except Failure Unit) : NetworkTurn :=
  ⟨.permit host, answer⟩

def settled (host : String) (success : Bool) (answer : Except Failure Unit) : NetworkTurn :=
  ⟨.settle host success, answer⟩

def transmitted (request : Except Failure Outgoing) (limit : Value) (answer : Transmission) :
    NetworkTurn :=
  ⟨.transmit request limit, answer⟩

def waited (seconds : Value) (answer : Except Failure Unit) : NetworkTurn :=
  ⟨.wait seconds, answer⟩

def resolved (host : String) (answer : Except Failure (List Value)) : NetworkTurn :=
  ⟨.resolve host, answer⟩

end NetworkTurn

open NetworkTurn

/-- Why there is no other try after one that failed. -/
inductive GivesUp (config : Config) (number : Int) (left : Nat) (failure : Failure) :
    Failure → Prop where
  | unordered {fault}
      (faulty : config.strategy.allows (.int number) (some failure) = .error fault) :
      GivesUp config number left failure (.operand fault)
  | undelayed {fault} (allowed : config.strategy.allows (.int number) (some failure) = .ok true)
      (faulty : config.strategy.delay (.float 0.5) (.int number) = .error fault) :
      GivesUp config number left failure (.operand fault)
  | spent {again} (judged : config.strategy.allows (.int number) (some failure) = .ok again)
      (last : again = false ∨ left = 0) :
      GivesUp config number left failure (finalFailure number failure)

/-- The talk and the result of the tries of a request from a number on. -/
inductive Tries (config : Config) (prepared : Prepared) :
    Int → Nat → List NetworkTurn → Except Failure Value → Prop where
  | rejected {number left} (rejection : Failure) :
      Tries config prepared number left [permitted prepared.host (.error rejection)]
        (.error rejection)
  | escaped {number left transmission failure}
      (fails : transmission.outcome config = .error failure) (foreign : failure.isHttp = false) :
      Tries config prepared number left
        [permitted prepared.host (.ok ()),
          transmitted prepared.outgoing config.timeout transmission] (.error failure)
  | served {number left transmission value} (serves : transmission.outcome config = .ok value)
      (told : Except Failure Unit) :
      Tries config prepared number left
        [permitted prepared.host (.ok ()),
          transmitted prepared.outgoing config.timeout transmission,
          settled prepared.host true told] (told.map fun () => value)
  | uncounted {number left transmission failure}
      (fails : transmission.outcome config = .error failure) (http : failure.isHttp)
      (fault : Failure) :
      Tries config prepared number left
        [permitted prepared.host (.ok ()),
          transmitted prepared.outgoing config.timeout transmission,
          settled prepared.host false (.error fault)] (.error fault)
  | ended {number left transmission failure last}
      (fails : transmission.outcome config = .error failure) (http : failure.isHttp)
      (ends : GivesUp config number left failure last) :
      Tries config prepared number left
        [permitted prepared.host (.ok ()),
          transmitted prepared.outgoing config.timeout transmission,
          settled prepared.host false (.ok ())] (.error last)
  | unwaited {number left transmission failure seconds}
      (fails : transmission.outcome config = .error failure) (http : failure.isHttp)
      (allowed : config.strategy.allows (.int number) (some failure) = .ok true)
      (delay : config.strategy.delay (.float 0.5) (.int number) = .ok seconds) (fault : Failure) :
      Tries config prepared number (left + 1)
        [permitted prepared.host (.ok ()),
          transmitted prepared.outgoing config.timeout transmission,
          settled prepared.host false (.ok ()), waited seconds (.error fault)] (.error fault)
  | again {number left transmission failure seconds rest result}
      (fails : transmission.outcome config = .error failure) (http : failure.isHttp)
      (allowed : config.strategy.allows (.int number) (some failure) = .ok true)
      (delay : config.strategy.delay (.float 0.5) (.int number) = .ok seconds)
      (later : Tries config prepared (number + 1) left rest result) :
      Tries config prepared number (left + 1)
        ([permitted prepared.host (.ok ()),
          transmitted prepared.outgoing config.timeout transmission,
          settled prepared.host false (.ok ()), waited seconds (.ok ())] ++ rest) result

/-- A talk of one conversation after the other is that of both, or the first failed. -/
theorem talks_andThen {α β : Type} {first : Exchange α} {second : α → Exchange β}
    {log : List NetworkTurn} {result : Except Failure β}
    (talks : Talks (Exchange.andThen first second) log result) :
    (∃ failure, Talks first log (.error failure) ∧ result = .error failure) ∨
      ∃ value before after, log = before ++ after ∧ Talks first before (.ok value) ∧
        Talks (second value) after result := by
  obtain ⟨before, middle, after, rfl, early, late⟩ := talks_bind_iff.mp talks
  cases middle with
  | ok value => exact .inr ⟨value, before, after, rfl, early, late⟩
  | error failure =>
      obtain ⟨rfl, rfl⟩ := talks_done_iff.mp late
      exact .inl ⟨failure, by simpa using early, rfl⟩

theorem talks_settle {host : String} {success : Bool} {log : List NetworkTurn}
    {told : Except Failure Unit} (talks : Talks (settle host success) log told) :
    log = [settled host success told] := by
  obtain ⟨reply, rest, rfl, later⟩ := talks_ask_iff.mp talks
  obtain ⟨rfl, rfl⟩ := talks_done_iff.mp later
  rfl

theorem talks_pause {number : Int} {log : List NetworkTurn} {outcome : Except Failure Unit}
    (talks : Talks (pause config number) log outcome) :
    (∃ fault, config.strategy.delay (.float 0.5) (.int number) = .error fault ∧ log = [] ∧
        outcome = .error (.operand fault)) ∨
      ∃ seconds, config.strategy.delay (.float 0.5) (.int number) = .ok seconds ∧
        log = [waited seconds outcome] := by
  unfold pause at talks
  split at talks
  next fault faulty =>
    obtain ⟨rfl, rfl⟩ := talks_done_iff.mp talks
    exact .inl ⟨fault, faulty, rfl, rfl⟩
  next seconds delay =>
    obtain ⟨reply, rest, rfl, later⟩ := talks_ask_iff.mp talks
    obtain ⟨rfl, rfl⟩ := talks_done_iff.mp later
    exact .inr ⟨seconds, delay, rfl⟩

/-- What follows a failure that the breaker was told of: the next try, if it is allowed. -/
def afterFailure (config : Config) (number : Int) (failure : Failure)
    (next : Option (Exchange Value)) : Exchange Value :=
  match config.strategy.allows (.int number) (some failure), next with
  | .error fault, _ => Exchange.fail (.operand fault)
  | .ok true, some next => Exchange.andThen (pause config number) fun () => next
  | .ok _, _ => Exchange.fail (finalFailure number failure)

/-- What follows a transmission. -/
def report (config : Config) (prepared : Prepared) (number : Int) (next : Option (Exchange Value))
    (outcome : Except Failure Value) : Exchange Value :=
  match outcome with
  | .ok value => Exchange.andThen (settle prepared.host true) fun () => .done (.ok value)
  | .error failure =>
    if failure.isHttp then
      Exchange.andThen (settle prepared.host false) fun () =>
        afterFailure config number failure next
    else Exchange.fail failure

/-- One try, with the next one that may follow. -/
def once (config : Config) (prepared : Prepared) (number : Int)
    (next : Option (Exchange Value)) : Exchange Value :=
  .ask (.permit prepared.host) fun (admission : Except Failure Unit) =>
    match admission with
    | .error rejection => Exchange.fail rejection
    | .ok () => (attempt config prepared).bind (report config prepared number next)

/-- The next try, as long as there are any left. -/
def next? (config : Config) (prepared : Prepared) (number : Int) : Nat → Option (Exchange Value)
  | 0 => none
  | left + 1 => some (attempts config prepared (number + 1) left)

/-- Tries are made one after the other. -/
theorem attempts_eq (number : Int) (left : Nat) :
    attempts config prepared number left =
      once config prepared number (next? config prepared number left) := by
  cases left
  all_goals
    -- the match on the number that is left stands under the questions, so that there is no equation
    delta attempts
    refine congrArg (Program.ask (I := network) (.permit prepared.host)) (funext fun answer => ?_)
    rcases answer with rejection | ⟨⟩
    · rfl
    refine congrArg (attempt config prepared).bind (funext fun outcome => ?_)
    rcases outcome with failure | value
    · cases http : failure.isHttp
      · simp only [report, http]
        rfl
      · simp only [report, http]
        refine congrArg (Exchange.andThen (settle prepared.host false)) (funext fun _ => ?_)
        rcases judged : config.strategy.allows (.int number) (some failure) with _ | _ | _
        all_goals simp only [afterFailure, judged, next?]
        all_goals try delta attempts
        all_goals rfl
    · rfl

/-- What follows a failure is that no other try is made, or a delay and the next one. -/
theorem talks_afterFailure {number : Int} {left : Nat} {failure : Failure}
    {log : List NetworkTurn} {result : Except Failure Value}
    (talks : Talks (afterFailure config number failure (next? config prepared number left)) log
      result) :
    (∃ last, GivesUp config number left failure last ∧ log = [] ∧ result = .error last) ∨
      ∃ rest seconds, left = rest + 1 ∧
        config.strategy.allows (.int number) (some failure) = .ok true ∧
        config.strategy.delay (.float 0.5) (.int number) = .ok seconds ∧
        ((∃ fault, log = [waited seconds (.error fault)] ∧ result = .error fault) ∨
          ∃ later, log = waited seconds (.ok ()) :: later ∧
            Talks (attempts config prepared (number + 1) rest) later result) := by
  unfold afterFailure at talks
  split at talks
  next fault faulty =>
    obtain ⟨rfl, rfl⟩ := talks_done_iff.mp talks
    exact .inl ⟨_, .unordered faulty, rfl, rfl⟩
  next allowed following =>
    cases left with
    | zero => cases following
    | succ rest =>
        obtain rfl := Option.some.inj following
        rcases talks_andThen talks with ⟨last, paused, rfl⟩ | ⟨⟨⟩, _, later, rfl, paused, next⟩
        all_goals rcases talks_pause paused with ⟨fault, faulty, rfl, same⟩ | ⟨seconds, delay, rfl⟩
        · obtain rfl := Except.error.inj same
          exact .inl ⟨_, .undelayed allowed faulty, rfl, rfl⟩
        · exact .inr ⟨rest, seconds, rfl, allowed, delay, .inl ⟨last, rfl, rfl⟩⟩
        · cases same
        · exact .inr ⟨rest, seconds, rfl, allowed, delay, .inr ⟨later, rfl, next⟩⟩
  next again judged unrepeated =>
    obtain ⟨rfl, rfl⟩ := talks_done_iff.mp talks
    refine .inl ⟨_, .spent judged ?_, rfl, rfl⟩
    cases again with
    | false => exact .inl rfl
    | true =>
        cases left with
        | zero => exact .inr rfl
        | succ rest => exact (unrepeated _ rfl rfl).elim

/-- A value and a failure of the client are reported; any other failure ends the request. -/
theorem talks_report {number : Int} {left : Nat} {transmission : Transmission}
    {log : List NetworkTurn} {result : Except Failure Value}
    (ih : ∀ rest log result, left = rest + 1 →
      Talks (attempts config prepared (number + 1) rest) log result →
      Tries config prepared (number + 1) rest log result)
    (talks : Talks (report config prepared number (next? config prepared number left)
      (transmission.outcome config)) log result) :
    Tries config prepared number left
      (permitted prepared.host (.ok ()) ::
        transmitted prepared.outgoing config.timeout transmission :: log) result := by
  rcases outcome : transmission.outcome config with failure | value
  all_goals simp only [outcome, report] at talks
  · split at talks
    next http =>
      rcases talks_andThen talks with ⟨fault, told, rfl⟩ | ⟨⟨⟩, _, rest, rfl, told, later⟩
      all_goals rw [talks_settle told]
      · exact .uncounted outcome http fault
      · rcases talks_afterFailure later with ⟨last, ends, rfl, rfl⟩ |
          ⟨rest, seconds, rfl, allowed, delay, ⟨fault, rfl, rfl⟩ | ⟨last, rfl, next⟩⟩
        · exact .ended outcome http ends
        · exact .unwaited outcome http allowed delay fault
        · exact .again outcome http allowed delay (ih rest last result rfl next)
    next foreign =>
      obtain ⟨rfl, rfl⟩ := talks_done_iff.mp talks
      exact .escaped outcome (by simpa using foreign)
  · rcases talks_andThen talks with ⟨fault, told, rfl⟩ | ⟨⟨⟩, _, rest, rfl, told, later⟩
    all_goals rw [talks_settle told]
    · exact .served outcome (.error fault)
    · obtain ⟨rfl, rfl⟩ := talks_done_iff.mp later
      exact .served outcome (.ok ())

/-- A request that has passed all checks talks in tries. -/
theorem talks_attempts {number : Int} {left : Nat} {log : List NetworkTurn}
    {result : Except Failure Value}
    (talks : Talks (attempts config prepared number left) log result) :
    Tries config prepared number left log result := by
  induction left using Nat.strongRecOn generalizing number log result with
  | _ left ih =>
      rw [attempts_eq] at talks
      obtain ⟨admission, log, rfl, admitted⟩ := talks_ask_iff.mp talks
      rcases admission with rejection | ⟨⟩
      · obtain ⟨rfl, rfl⟩ := talks_done_iff.mp admitted
        exact .rejected rejection
      · obtain ⟨transmission, log, rfl, sent⟩ := talks_ask_iff.mp admitted
        refine talks_report (fun rest log result fewer later => ?_) sent
        exact ih rest (fewer ▸ Nat.lt_succ_self rest) later

section Request

variable {url headers : Value} {method : String} {body : Body}

/-- The addresses of a host were not asked for, or they are not internal. -/
inductive Cleared (config : Config) (host : String) : List NetworkTurn → Prop where
  | unasked (known : mustResolve config host = false) : Cleared config host []
  | judged {answer} (asked : mustResolve config host)
      (fine : judgeAddresses host answer = .ok ()) : Cleared config host [resolved host answer]

/-- The talk and the result of a request. -/
inductive Requested (config : Config) (url : Value) (method : String) (headers : Value)
    (body : Body) : List NetworkTurn → Except Failure Value → Prop where
  | refused {failure} (refuses : admittedHost config url = .error failure) :
      Requested config url method headers body [] (.error failure)
  | internal {host answer failure} (admitted : admittedHost config url = .ok host)
      (asked : mustResolve config host) (judged : judgeAddresses host answer = .error failure) :
      Requested config url method headers body [resolved host answer] (.error failure)
  | unprepared {host lookup failure} (admitted : admittedHost config url = .ok host)
      (cleared : Cleared config host lookup)
      (refuses : prepare config host (Text.upper method) url headers body = .error failure) :
      Requested config url method headers body lookup (.error failure)
  | tried {host lookup prepared rest result} (admitted : admittedHost config url = .ok host)
      (cleared : Cleared config host lookup)
      (ready : prepare config host (Text.upper method) url headers body = .ok prepared)
      (tries : Tries config prepared 1 config.retryBound rest result) :
      Requested config url method headers body (lookup ++ rest) result

theorem talks_checkAddresses {host : String} {log : List NetworkTurn}
    {outcome : Except Failure Unit} (talks : Talks (checkAddresses config host) log outcome) :
    Cleared config host log ∧ outcome = .ok () ∨
      ∃ answer failure, mustResolve config host ∧ judgeAddresses host answer = .error failure ∧
        log = [resolved host answer] ∧ outcome = .error failure := by
  unfold checkAddresses at talks
  split at talks
  next asked =>
    obtain ⟨answer, rest, rfl, later⟩ := talks_ask_iff.mp talks
    obtain ⟨rfl, rfl⟩ := talks_done_iff.mp later
    rcases judged : judgeAddresses host answer with failure | ⟨⟩
    · exact .inr ⟨answer, failure, asked, judged, rfl, rfl⟩
    · exact .inl ⟨.judged asked judged, rfl⟩
  next unasked =>
    obtain ⟨rfl, rfl⟩ := talks_done_iff.mp talks
    exact .inl ⟨.unasked (by simpa using unasked), rfl⟩

/-- A request is refused, or its checks are passed and it is tried. -/
theorem talks_request {log : List NetworkTurn} {result : Except Failure Value}
    (talks : Talks (request config url method headers body) log result) :
    Requested config url method headers body log result := by
  unfold request at talks
  dsimp only at talks
  split at talks
  next failure refuses =>
    obtain ⟨rfl, rfl⟩ := talks_done_iff.mp talks
    exact .refused refuses
  next host admitted =>
    rcases talks_andThen talks with ⟨failure, checked, rfl⟩ | ⟨⟨⟩, lookup, rest, rfl, checked, later⟩
    all_goals rcases talks_checkAddresses checked with
      ⟨cleared, fine⟩ | ⟨answer, fault, asked, judged, rfl, refused⟩
    · cases fine
    · obtain rfl := Except.error.inj refused
      exact .internal admitted asked judged
    · split at later
      next failure refuses =>
        obtain ⟨rfl, rfl⟩ := talks_done_iff.mp later
        rw [List.append_nil]
        exact .unprepared admitted cleared refuses
      next prepared ready => exact .tried admitted cleared ready (talks_attempts later)
    · cases refused

section First

variable {host : String} {transmission : Transmission}

/-- A request whose host is cleared goes on with its preparation. -/
theorem talks_cleared {lookup log : List NetworkTurn} {result : Except Failure Value}
    (admitted : admittedHost config url = .ok host) (cleared : Cleared config host lookup)
    (talks : Talks (match prepare config host (Text.upper method) url headers body with
      | .error failure => Exchange.fail failure
      | .ok prepared => attempts config prepared 1 config.retryBound) log result) :
    Talks (request config url method headers body) (lookup ++ log) result := by
  unfold request
  simp only [admitted]
  refine talks_bind_iff.mpr ⟨lookup, .ok (), log, rfl, ?_, talks⟩
  unfold checkAddresses
  cases cleared with
  | unasked known =>
      rw [known]
      exact .done _
  | @judged answer asked fine =>
      rw [if_pos asked, ← fine]
      exact talks_ask_iff.mpr ⟨answer, [], rfl, .done _⟩

/-- A request that passes its checks without asking for addresses talks as its attempts do. -/
theorem talks_unasked {log : List NetworkTurn} {result : Except Failure Value}
    (admitted : admittedHost config url = .ok host) (unasked : mustResolve config host = false)
    (ready : prepare config host (Text.upper method) url headers body = .ok prepared)
    (talks : Talks (attempts config prepared 1 config.retryBound) log result) :
    Talks (request config url method headers body) log result :=
  talks_cleared admitted (.unasked unasked) (by simpa only [ready] using talks)

/-- Attempts of which the first ends in a failure that is none of the client's. -/
theorem talks_attempts_escape {failure : Failure}
    (fails : transmission.outcome config = .error failure) (foreign : failure.isHttp = false) :
    Talks (attempts config prepared 1 config.retryBound)
      [permitted prepared.host (.ok ()),
        transmitted prepared.outgoing config.timeout transmission] (.error failure) := by
  have reported : report config prepared 1 (next? config prepared 1 config.retryBound)
      (transmission.outcome config) = .done (.error failure) := by
    simp [report, fails, foreign, Exchange.fail]
  rw [attempts_eq]
  refine talks_ask_iff.mpr ⟨(.ok () : Except Failure Unit), _, rfl, ?_⟩
  refine talks_ask_iff.mpr ⟨transmission, _, rfl, ?_⟩
  have ended := Talks.done (I := network) (.error failure : Except Failure Value)
  rwa [← reported] at ended

/-- A request whose first try ends in a failure that is none of the client's. -/
theorem talks_escape {failure : Failure}
    (admitted : admittedHost config url = .ok host) (unasked : mustResolve config host = false)
    (ready : prepare config host (Text.upper method) url headers body = .ok prepared)
    (fails : transmission.outcome config = .error failure) (foreign : failure.isHttp = false) :
    Talks (request config url method headers body)
      [permitted prepared.host (.ok ()),
        transmitted prepared.outgoing config.timeout transmission] (.error failure) :=
  talks_unasked admitted unasked ready (talks_attempts_escape fails foreign)

/-- A request whose first try is served. -/
theorem talks_served {value : Value}
    (admitted : admittedHost config url = .ok host) (unasked : mustResolve config host = false)
    (ready : prepare config host (Text.upper method) url headers body = .ok prepared)
    (serves : transmission.outcome config = .ok value) :
    Talks (request config url method headers body)
      [permitted prepared.host (.ok ()),
        transmitted prepared.outgoing config.timeout transmission,
        settled prepared.host true (.ok ())] (.ok value) := by
  refine talks_unasked admitted unasked ready ?_
  rw [attempts_eq]
  refine talks_ask_iff.mpr ⟨(.ok () : Except Failure Unit), _, rfl, ?_⟩
  refine talks_ask_iff.mpr ⟨transmission, _, rfl, ?_⟩
  show Talks (report config prepared 1 _ (transmission.outcome config)) _ _
  rw [serves]
  exact talks_ask_iff.mpr ⟨(.ok () : Except Failure Unit), _, rfl, .done _⟩

end First

end Request

end Orchestra.Http
