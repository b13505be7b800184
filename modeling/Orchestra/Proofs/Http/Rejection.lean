import Orchestra.Proofs.Http.Blocking

/-!
Requests that are rejected before they are tried.

A client that blocks internal addresses and resolves names makes five checks ahead of the first try. A
request that fails one of them is not sent, and the breaker is neither asked nor told of it. What is
sent has passed them all.
-/

namespace Orchestra.Http

open NetworkTurn

variable {config : Config} {url headers : Value} {method : String} {body : Body}
  {log : List NetworkTurn} {result : Except Failure Value}

/-- The addresses of a host are asked for. -/
def NetworkTurn.looksUp (turn : NetworkTurn) : Bool :=
  match turn with
  | ⟨.resolve _, _⟩ => true
  | _ => false

/-- The request that is sent. -/
def NetworkTurn.sent? (turn : NetworkTurn) : Option (Except Failure Outgoing) :=
  match turn with
  | ⟨.transmit request _, _⟩ => some request
  | _ => none

/-- A request sends its body. -/
def Carries (method : String) (body : Body) : Prop :=
  body.isNull = false ∧ Text.upper method ∈ bodyMethods

instance (method : String) (body : Body) : Decidable (Carries method body) :=
  inferInstanceAs (Decidable (_ ∧ _))

/-- Why a request is rejected before it is tried, and what its caller is told. -/
inductive Rejects (config : Config) (url : Value) (method : String) (body : Body)
    (log : List NetworkTurn) : Failure → Prop where
  | invalid {text : String} (unled : ∀ host, ¬ Leads url host) :
      Rejects config url method body log (.invalidUrl text)
  | guarded {host : String} (leads : Leads url host) (guarded : isGuarded host) :
      Rejects config url method body log (.addressBlocked (.str host))
  | unresolved {name : String} {fault : Failure} (asked : resolved name (.error fault) ∈ log) :
      Rejects config url method body log
        (.transport ("DNS resolution failed for " ++ name ++ ": " ++ fault.message))
  | inside {name : String} {addresses : List Value} {address : Value}
      (asked : resolved name (.ok addresses) ∈ log) (member : address ∈ addresses)
      (internal : isInternal address) :
      Rejects config url method body log (.addressBlocked (.str name))
  | oversized (carries : Carries method body)
      (exceeds : (Value.int body.encoded.length).greater config.maxPayload = .ok true) :
      Rejects config url method body log
        (.payloadTooLarge (.int body.encoded.length) config.maxPayload)

/-- The resolver has told nothing but addresses outside. -/
def Outside (log : List NetworkTurn) : Prop :=
  ∀ name answer, resolved name answer ∈ log →
    ∃ addresses, answer = .ok addresses ∧ ∀ address ∈ addresses, isInternal address = false

/-- What holds of every request that is sent, with the host that its URL leads to. -/
structure Screened (config : Config) (url : Value) (method : String) (body : Body)
    (log : List NetworkTurn) (host : String) : Prop where
  leads : Leads url host
  unguarded : isGuarded host = false
  /-- A host that is no literal was resolved. -/
  looked : Address.ofText? (Text.lower host) = none →
    ∃ addresses, resolved (Text.lower host) (.ok addresses) ∈ log
  outside : Outside log
  within : Carries method body →
    (Value.int body.encoded.length).greater config.maxPayload = .ok false

/-- A talk in which nothing is asked but the addresses of hosts. -/
def Quiet (log : List NetworkTurn) : Prop :=
  ∀ turn ∈ log, ∃ name answer, turn = resolved name answer

theorem Quiet.unsent (quiet : Quiet log) (sent : Except Failure Outgoing) (limit : Value)
    (answer : Transmission) : transmitted sent limit answer ∉ log := by
  intro member
  obtain ⟨name, other, same⟩ := quiet _ member
  cases congrArg Turn.call same

theorem Cleared.quiet {host : String} (cleared : Cleared config host log) : Quiet log := by
  cases cleared with
  | unasked => exact fun _ member => (List.not_mem_nil member).elim
  | judged => exact List.forall_mem_singleton.mpr ⟨_, _, rfl⟩

section Breaker

variable {Time : Type} [Sub Time] [LT Time] [DecidableLT Time] [LE Time] [DecidableLE Time]

/-- A breaker that is neither asked nor told stays as it is. -/
theorem Quiet.serves_iff (quiet : Quiet log) {breaker last : Breaker Time} :
    Serves breaker log last ↔ last = breaker := by
  induction log with
  | nil =>
      refine ⟨fun serves => ?_, ?_⟩
      · cases serves
        rfl
      · rintro rfl
        exact .nil last
  | cons turn log ih =>
      obtain ⟨⟨name, answer, rfl⟩, rest⟩ := List.forall_mem_cons.mp quiet
      rw [← ih rest]
      refine ⟨fun serves => ?_, .passed rfl fun _ => rfl⟩
      cases serves with
      | passed _ _ later => exact later

end Breaker

/-- A URL that leads nowhere is refused as such. -/
theorem admittedHost_unled (config : Config) (unled : ∀ host, ¬ Leads url host) :
    ∃ text, admittedHost config url = .error (.invalidUrl text) := by
  unfold admittedHost
  split
  next => exact ⟨_, rfl⟩
  next parsed read =>
    split
    next => exact ⟨_, rfl⟩
    split
    next => exact ⟨_, rfl⟩
    next known =>
      split
      next => exact ⟨_, rfl⟩
      next host named =>
        have web : parsed.scheme = "http" ∨ parsed.scheme = "https" := by
          simpa [or_iff_not_imp_left] using known
        exact (unled host ⟨parsed, read, web, named⟩).elim

/-- A client that blocks internal addresses admits the hosts that are not guarded. -/
theorem admittedHost_cases (blocks : config.blockInternal = true) (url : Value) :
    (∃ text, (∀ host, ¬ Leads url host) ∧ admittedHost config url = .error (.invalidUrl text)) ∨
    (∃ host, Leads url host ∧ isGuarded host ∧
      admittedHost config url = .error (.addressBlocked (.str host))) ∨
    ∃ host, Leads url host ∧ isGuarded host = false ∧
      admittedHost config url = .ok (Text.lower host) := by
  by_cases led : ∃ host, Leads url host
  · obtain ⟨host, leads⟩ := led
    have admitted : admittedHost config url =
        if isGuarded host then .error (.addressBlocked (.str host)) else .ok (Text.lower host) := by
      rw [admittedHost_eq leads, blocks, Bool.true_and]
    cases guarded : isGuarded host with
    | true => exact .inr (.inl ⟨host, leads, guarded, by simpa [guarded] using admitted⟩)
    | false => exact .inr (.inr ⟨host, leads, guarded, by simpa [guarded] using admitted⟩)
  · have unled := not_exists.mp led
    obtain ⟨text, refused⟩ := admittedHost_unled config unled
    exact .inl ⟨text, unled, refused⟩

theorem Leads.unique {host other : String} (leads : Leads url host) (again : Leads url other) :
    host = other := by
  obtain ⟨parsed, read, -, named⟩ := leads
  obtain ⟨parsed', read', -, named'⟩ := again
  cases read.symm.trans read'
  exact Option.some.inj (named.symm.trans named')

section Addresses

variable {host : String} {answer : Except Failure (List Value)}

theorem outside_of_judged (fine : judgeAddresses host answer = .ok ()) :
    ∃ addresses, answer = .ok addresses ∧ ∀ address ∈ addresses, isInternal address = false := by
  unfold judgeAddresses at fine
  split at fine
  next => cases fine
  next addresses =>
    split at fine
    next => cases fine
    next none => exact ⟨addresses, rfl, by simpa using none⟩

theorem rejects_of_judged {failure : Failure} (asked : resolved host answer ∈ log)
    (judged : judgeAddresses host answer = .error failure) :
    Rejects config url method body log failure := by
  unfold judgeAddresses at judged
  split at judged
  next fault =>
    cases judged
    exact .unresolved asked
  next addresses =>
    split at judged
    next some =>
      cases judged
      obtain ⟨address, member, internal⟩ := List.any_eq_true.mp some
      exact .inside asked member internal
    next => cases judged

theorem Cleared.outside (cleared : Cleared config host log) : Outside log := by
  cases cleared with
  | unasked => exact fun _ _ member => (List.not_mem_nil member).elim
  | judged _ fine =>
      intro name answer member
      cases List.mem_singleton.mp member
      exact outside_of_judged fine

/-- Every try sends the request that was prepared. -/
theorem Tries.sent? {prepared : Prepared} {number : Int} {left : Nat}
    (tries : Tries config prepared number left log result) :
    ∀ turn ∈ log, ∀ sent, turn.sent? = some sent → sent = prepared.outgoing := by
  induction tries with
  | again fails http allowed delay later ih =>
      simpa [NetworkTurn.sent?, permitted, transmitted, settled, waited, eq_comm] using ih
  | _ => simp [NetworkTurn.sent?, permitted, transmitted, settled, waited, eq_comm]

/-- The tries of a request look nothing up. -/
theorem Tries.unresolved {prepared : Prepared} {number : Int} {left : Nat}
    (tries : Tries config prepared number left log result) :
    ∀ turn ∈ log, turn.looksUp = false := by
  induction tries with
  | again fails http allowed delay later ih =>
      simpa [looksUp, permitted, transmitted, settled, waited] using ih
  | _ => simp [looksUp, permitted, transmitted, settled, waited]

theorem Cleared.asked (cleared : Cleared config host log) (must : mustResolve config host = true) :
    ∃ addresses, resolved host (.ok addresses) ∈ log := by
  cases cleared with
  | unasked known => cases must.symm.trans known
  | judged _ fine =>
      obtain ⟨addresses, rfl, -⟩ := outside_of_judged fine
      exact ⟨addresses, List.mem_cons_self⟩

theorem Outside.append {lookup rest : List NetworkTurn} {prepared : Prepared} {number : Int}
    {left : Nat} (outside : Outside lookup)
    (tries : Tries config prepared number left rest result) : Outside (lookup ++ rest) := by
  intro name answer member
  rcases List.mem_append.mp member with early | late
  · exact outside name answer early
  · cases tries.unresolved _ late

end Addresses

section Size

theorem checkSize_eq (cap : Value) (size : Int) : checkSize cap size =
    match (Value.int size).greater cap with
    | .error fault => .error (.operand fault)
    | .ok true => .error (.payloadTooLarge (.int size) cap)
    | .ok false => .ok () := by
  unfold checkSize
  rcases (Value.int size).greater cap with _ | _ | _ <;> rfl

theorem encodeBody_eq : encodeBody config (Text.upper method) body =
    if Carries method body then
      (checkSize config.maxPayload body.encoded.length).map fun () => body.encoded
    else .ok [] := by
  unfold encodeBody
  by_cases carries : Carries method body
  · rw [if_pos carries, if_neg (by simp [carries.1, carries.2])]
  · rw [if_neg carries, if_pos]
    cases empty : body.isNull with
    | true => rfl
    | false => simpa [Carries, empty] using carries

/-- The body of a request that is ready keeps to the cap. -/
theorem prepare_ok {host : String} {prepared : Prepared}
    (ready : prepare config host (Text.upper method) url headers body = .ok prepared) :
    (Carries method body → (Value.int body.encoded.length).greater config.maxPayload = .ok false) ∧
      prepared.body = if Carries method body then body.encoded else [] := by
  obtain ⟨content, encoded, rest⟩ := bind_ok_iff.mp ready
  obtain ⟨fields, -, done⟩ := bind_ok_iff.mp rest
  cases done
  rw [encodeBody_eq] at encoded
  split at encoded
  next carries =>
    rw [checkSize_eq] at encoded
    split at encoded
    next => cases encoded
    next => cases encoded
    next fits =>
      cases encoded
      exact ⟨fun _ => fits, (if_pos carries).symm⟩
  next idle =>
    cases encoded
    exact ⟨fun carries => (idle carries).elim, (if_neg idle).symm⟩

theorem prepare_oversized {host : String} (carries : Carries method body)
    (exceeds : (Value.int body.encoded.length).greater config.maxPayload = .ok true) :
    prepare config host (Text.upper method) url headers body =
      .error (.payloadTooLarge (.int body.encoded.length) config.maxPayload) := by
  refine bind_error_iff.mpr (.inl ?_)
  rw [encodeBody_eq, if_pos carries, checkSize_eq, exceeds]
  rfl

/-- A request is sent with the body that was prepared. -/
theorem outgoing_body {method url : String} {headers : Fields} {content : List UInt8}
    {sent : Outgoing} (made : outgoing method url headers (.ok content) = .ok sent) :
    sent.body = content := by
  obtain ⟨target, -, headed⟩ := bind_ok_iff.mp made
  obtain ⟨fields, -, filled⟩ := bind_ok_iff.mp headed
  obtain ⟨bytes, same, placed⟩ := bind_ok_iff.mp filled
  cases same
  dsimp only at placed
  split at placed
  next =>
    obtain ⟨place, -, named⟩ := bind_ok_iff.mp placed
    obtain ⟨host, -, done⟩ := bind_ok_iff.mp named
    cases done
    rfl
  next =>
    obtain ⟨host, -, done⟩ := bind_ok_iff.mp placed
    cases done
    rfl

end Size

theorem leads_of_admitted {name : String} (blocks : config.blockInternal = true)
    (admitted : admittedHost config url = .ok name) :
    ∃ host, Leads url host ∧ isGuarded host = false ∧ name = Text.lower host := by
  rcases admittedHost_cases blocks url with
    ⟨text, -, same⟩ | ⟨host, -, -, same⟩ | ⟨host, leads, unguarded, same⟩
  · cases admitted.symm.trans same
  · cases admitted.symm.trans same
  · cases admitted.symm.trans same
    exact ⟨host, leads, unguarded, rfl⟩

/-- Once host and addresses have passed, only the size is left as a reason. -/
theorem Rejects.oversized_of {host : String} {reason : Failure} (leads : Leads url host)
    (unguarded : isGuarded host = false) (outside : Outside log)
    (rejects : Rejects config url method body log reason) :
    Carries method body ∧ (Value.int body.encoded.length).greater config.maxPayload = .ok true := by
  cases rejects with
  | invalid unled => exact (unled host leads).elim
  | guarded again guarded =>
      cases leads.unique again
      cases unguarded.symm.trans guarded
  | unresolved asked =>
      obtain ⟨addresses, same, -⟩ := outside _ _ asked
      cases same
  | inside asked member internal =>
      obtain ⟨addresses, same, outer⟩ := outside _ _ asked
      cases same
      cases (outer _ member).symm.trans internal
  | oversized carries exceeds => exact ⟨carries, exceeds⟩

/-- A request that is rejected ends with one of the reasons for that, after nothing but a look at the
addresses of its host. -/
theorem Requested.rejected (blocks : config.blockInternal = true)
    (requested : Requested config url method headers body log result)
    (rejected : ∃ reason, Rejects config url method body log reason) :
    (∃ reason, Rejects config url method body log reason ∧ result = .error reason) ∧ Quiet log := by
  obtain ⟨reason, rejects⟩ := rejected
  cases requested with
  | @refused failure refuses =>
      refine ⟨⟨failure, ?_, rfl⟩, fun _ member => (List.not_mem_nil member).elim⟩
      rcases admittedHost_cases blocks url with
        ⟨text, unled, same⟩ | ⟨host, leads, guarded, same⟩ | ⟨host, -, -, same⟩
      · cases refuses.symm.trans same
        exact .invalid unled
      · cases refuses.symm.trans same
        exact .guarded leads guarded
      · cases refuses.symm.trans same
  | internal _ _ judged =>
      exact ⟨⟨_, rejects_of_judged List.mem_cons_self judged, rfl⟩,
        List.forall_mem_singleton.mpr ⟨_, _, rfl⟩⟩
  | unprepared admitted cleared refuses =>
      obtain ⟨host, leads, unguarded⟩ := leads_of_admitted blocks admitted
      obtain ⟨carries, exceeds⟩ := rejects.oversized_of leads unguarded.1 cleared.outside
      cases refuses.symm.trans (prepare_oversized carries exceeds)
      exact ⟨⟨_, .oversized carries exceeds, rfl⟩, cleared.quiet⟩
  | tried admitted cleared ready tries =>
      obtain ⟨host, leads, unguarded⟩ := leads_of_admitted blocks admitted
      obtain ⟨carries, exceeds⟩ :=
        rejects.oversized_of leads unguarded.1 (cleared.outside.append tries)
      cases ((prepare_ok ready).1 carries).symm.trans exceeds

/-- A request that is sent has passed all checks, and is sent with the body that it was checked with. -/
theorem Requested.screened (blocks : config.blockInternal = true)
    (resolves : config.resolveNames = true)
    (requested : Requested config url method headers body log result)
    {sent : Except Failure Outgoing} {limit : Value} {answer : Transmission}
    (member : transmitted sent limit answer ∈ log) :
    ∃ host, Screened config url method body log host ∧ ∀ outgoing, sent = .ok outgoing →
      outgoing.body = if Carries method body then body.encoded else [] := by
  cases requested with
  | refused => exact (List.not_mem_nil member).elim
  | internal => exact ((Quiet.unsent (List.forall_mem_singleton.mpr ⟨_, _, rfl⟩) _ _ _) member).elim
  | unprepared _ cleared => exact (cleared.quiet.unsent _ _ _ member).elim
  | @tried _ lookup prepared rest _ admitted cleared ready tries =>
      obtain ⟨host, leads, unguarded, rfl⟩ := leads_of_admitted blocks admitted
      obtain ⟨within, content⟩ := prepare_ok ready
      refine ⟨host, ⟨leads, unguarded, fun symbolic => ?_, cleared.outside.append tries, within⟩, ?_⟩
      · obtain ⟨addresses, asked⟩ := cleared.asked (by simp [mustResolve, blocks, resolves, symbolic])
        exact ⟨addresses, List.mem_append_left _ asked⟩
      · intro outgoing same
        have made : prepared.outgoing = .ok outgoing := by
          rcases List.mem_append.mp member with early | late
          · exact (cleared.quiet.unsent _ _ _ early).elim
          · exact (tries.sent? _ late sent rfl).symm.trans same
        rw [outgoing_body made, content]

section Trace

variable {Time : Type} [Sub Time] [LT Time] [DecidableLT Time] [LE Time] [DecidableLE Time]

/-- If there is a reason to reject a request, its caller is told of one, nothing is sent, and the
breaker stays as it is for all hosts. Whatever is sent goes to a host that is not guarded, with no
internal address among those that it resolved to, and with a body that keeps to the cap. -/
theorem rejection_leaves_no_trace (blocks : config.blockInternal = true)
    (resolves : config.resolveNames = true)
    (talks : Talks (request config url method headers body) log result) :
    ((∃ reason, Rejects config url method body log reason) →
      (∃ reason, Rejects config url method body log reason ∧ result = .error reason) ∧
      (∀ sent limit answer, transmitted sent limit answer ∉ log) ∧
      ∀ breaker last : Breaker Time, Serves breaker log last ↔ last = breaker) ∧
    ∀ sent limit answer, transmitted sent limit answer ∈ log →
      ∃ host, Screened config url method body log host ∧ ∀ outgoing, sent = .ok outgoing →
        outgoing.body = if Carries method body then body.encoded else [] := by
  have requested := talks_request talks
  refine ⟨fun rejected => ?_, fun sent limit answer => requested.screened blocks resolves⟩
  obtain ⟨told, quiet⟩ := requested.rejected blocks rejected
  exact ⟨told, quiet.unsent, fun breaker last => quiet.serves_iff⟩

end Trace

/-- A client that blocks, resolves, and takes no more than four bytes. -/
def narrow : Config where
  maxPayload := .int 4
  blockInternal := true
  resolveNames := true

/-- The look at the addresses of a name that stands for one outside. -/
def outsideLook : List NetworkTurn :=
  [resolved "api.test" (.ok [.str "93.184.216.34"])]

/-- Five bytes are rejected without a trace, and four are sent. -/
theorem narrow_rejects_five_bytes :
    (∃ log, Talks (request narrow (.str "http://api.test/") "post" (.obj []) (.bytes [1, 2, 3, 4, 5]))
        log (.error (.payloadTooLarge (.int 5) (.int 4))) ∧
      ∀ breaker last : Breaker Int, Serves breaker log last ↔ last = breaker) ∧
    ∃ log result sent limit answer,
      Talks (request narrow (.str "http://api.test/") "post" (.obj []) (.bytes [1, 2, 3, 4])) log
        result ∧
      transmitted sent limit answer ∈ log ∧
      ∃ host, Screened narrow (.str "http://api.test/") "post" (.bytes [1, 2, 3, 4]) log host := by
  have admitted : admittedHost narrow (.str "http://api.test/") = .ok "api.test" := rfl
  have cleared : Cleared narrow "api.test" outsideLook := .judged rfl rfl
  have exceeds : (Value.int (Body.bytes [1, 2, 3, 4, 5]).encoded.length).greater narrow.maxPayload =
      .ok true := Value.greater_int 5 4
  have five : Talks (request narrow (.str "http://api.test/") "post" (.obj [])
      (.bytes [1, 2, 3, 4, 5])) (outsideLook ++ [])
      (.error (.payloadTooLarge (.int 5) (.int 4))) := by
    refine talks_cleared admitted cleared ?_
    rw [prepare_oversized (by decide) exceeds]
    exact .done _
  have fits : encodeBody narrow (Text.upper "post") (.bytes [1, 2, 3, 4]) = .ok [1, 2, 3, 4] := by
    have within : checkSize narrow.maxPayload (4 : Nat) = .ok () := checkSize_int (by decide)
    rw [encodeBody_eq, if_pos (by decide)]
    exact congrArg (Except.map _) within
  obtain ⟨prepared, ready⟩ : ∃ prepared, prepare narrow "api.test" (Text.upper "post")
      (.str "http://api.test/") (.obj []) (.bytes [1, 2, 3, 4]) = .ok prepared :=
    ⟨_, bind_ok_iff.mpr ⟨_, fits, rfl⟩⟩
  have four := talks_cleared admitted cleared (by
    rw [ready]
    exact talks_attempts_escape
      (show (Transmission.failed (.foreign .lookup "")).outcome narrow = _ from rfl) rfl)
  constructor
  · refine ⟨_, five, ?_⟩
    exact ((rejection_leaves_no_trace rfl rfl five).1 ⟨_, .oversized (by decide) exceeds⟩).2.2
  · have member : transmitted prepared.outgoing narrow.timeout (.failed (.foreign .lookup "")) ∈
        outsideLook ++ [permitted prepared.host (.ok ()),
          transmitted prepared.outgoing narrow.timeout (.failed (.foreign .lookup ""))] :=
      List.mem_append_right _ (.tail _ (.head _))
    obtain ⟨host, screened, -⟩ :=
      (@rejection_leaves_no_trace _ _ _ _ _ _ _ Int _ _ _ _ _ rfl rfl four).2 _ _ _ member
    exact ⟨_, _, _, _, _, four, member, host, screened⟩

end Orchestra.Http
