import Orchestra.Proofs.Http.Escape

/-!
How far a client keeps away from internal addresses.

A client that blocks them refuses local names and internal addresses in the URL before it asks
anything. A name that leads to an internal address is refused by a client that also resolves names,
and by no other.
-/

namespace Orchestra.Http

open NetworkTurn

variable {config : Config} {url headers : Value} {method : String} {body : Body} {host : String}
  {log : List NetworkTurn} {result : Except Failure Value}

/-- A valid web address leads to a host. -/
def Leads (url : Value) (host : String) : Prop :=
  ∃ parsed, url.str?.bind Url.ofText? = some parsed ∧
    (parsed.scheme = "http" ∨ parsed.scheme = "https") ∧ parsed.host? = some host

/-- A host is a name that stands for some internal address. -/
def StandsForInternal (host : String) (addresses : List Value) : Prop :=
  Address.ofText? (Text.lower host) = none ∧ addresses.any isInternal

/-- A talk ends in a refusal of the address, and no request was sent in it. -/
structure Kept (log : List NetworkTurn) (result : Except Failure Value) : Prop where
  blocked : ∃ host, result = .error (.addressBlocked (.str host))
  unsent : ∀ request limit answer, transmitted request limit answer ∉ log

/-- Whatever the resolver says of a host, a client does not call it when it is a local name, an
internal address or a name that stands for one. -/
def KeepsAway (config : Config) : Prop :=
  ∀ url method headers body host addresses log result, Leads url host →
    isGuarded host ∨ StandsForInternal host addresses →
    Talks (request config url method headers body) log result →
    (∀ name answer, resolved name answer ∈ log → answer = .ok addresses) → Kept log result

theorem admittedHost_eq (leads : Leads url host) :
    admittedHost config url =
      if config.blockInternal && isGuarded host then .error (.addressBlocked (.str host))
      else .ok (Text.lower host) := by
  obtain ⟨parsed, read, scheme, named⟩ := leads
  unfold admittedHost
  rw [read]
  dsimp only
  rw [named]
  rcases scheme with scheme | scheme <;> simp [scheme]

/-- A host that the URL itself shows to be internal is refused before anything is asked. -/
theorem guarded_kept (blocks : config.blockInternal = true) (leads : Leads url host)
    (guarded : isGuarded host) (talks : Talks (request config url method headers body) log result) :
    log = [] ∧ result = .error (.addressBlocked (.str host)) := by
  have refuses : admittedHost config url = .error (.addressBlocked (.str host)) := by
    rw [admittedHost_eq leads, blocks, guarded]
    rfl
  cases talks_request talks with
  | refused fails => exact ⟨rfl, congrArg _ (Except.error.inj (fails.symm.trans refuses))⟩
  | internal admitted | unprepared admitted | tried admitted => cases refuses.symm.trans admitted

theorem talks_refused {failure : Failure} (refuses : admittedHost config url = .error failure) :
    Talks (request config url method headers body) [] (.error failure) := by
  unfold request
  simp only [refuses]
  exact .done _

/-- With an internal address among the answers of the resolver no host is cleared. -/
theorem not_cleared {addresses : List Value} (asked : mustResolve config host)
    (inside : addresses.any isInternal)
    (answers : ∀ name answer, resolved name answer ∈ log → answer = .ok addresses) :
    ¬ Cleared config host log := by
  rintro (known | ⟨-, fine⟩)
  · cases asked.symm.trans known
  · rw [answers _ _ List.mem_cons_self] at fine
    simp [judgeAddresses, inside] at fine

/-- A client that also resolves names keeps away from what stands for an internal address. -/
theorem resolved_kept {addresses : List Value} (blocks : config.blockInternal = true)
    (resolves : config.resolveNames = true) (leads : Leads url host)
    (unguarded : isGuarded host = false) (stands : StandsForInternal host addresses)
    (talks : Talks (request config url method headers body) log result)
    (answers : ∀ name answer, resolved name answer ∈ log → answer = .ok addresses) :
    Kept log result := by
  have admits : admittedHost config url = .ok (Text.lower host) := by
    rw [admittedHost_eq leads, unguarded, Bool.and_false]
    rfl
  have asked : mustResolve config (Text.lower host) := by
    simp [mustResolve, blocks, resolves, stands.1]
  cases talks_request talks with
  | refused fails => cases fails.symm.trans admits
  | internal _ _ judged =>
      rw [answers _ _ List.mem_cons_self] at judged
      simp only [judgeAddresses, stands.2, if_true] at judged
      refine ⟨⟨_, congrArg _ (Except.error.inj judged).symm⟩, fun request limit answer sent => ?_⟩
      cases congrArg Turn.call (List.mem_singleton.mp sent)
  | unprepared admitted cleared =>
      cases admitted.symm.trans admits
      exact (not_cleared asked stands.2 answers cleared).elim
  | tried admitted cleared =>
      cases admitted.symm.trans admits
      refine (not_cleared asked stands.2 (fun name answer found => ?_) cleared).elim
      exact answers name answer (List.mem_append_left _ found)

/-- A client that resolves no names calls one whatever it stands for. -/
theorem not_keepsAway (unresolved : config.resolveNames = false) : ¬ KeepsAway config := by
  intro away
  let fault : Failure := .foreign .lookup ""
  obtain ⟨prepared, ready⟩ : ∃ prepared, prepare config "inner.test" (Text.upper "GET")
      (.str "http://inner.test/") (.obj []) (.value .null) = .ok prepared := ⟨_, rfl⟩
  have leads : Leads (.str "http://inner.test/") "inner.test" := ⟨_, rfl, .inl rfl, rfl⟩
  have unguarded : isGuarded "inner.test" = false := rfl
  have admitted : admittedHost config (.str "http://inner.test/") = .ok "inner.test" := by
    rw [admittedHost_eq leads, unguarded, Bool.and_false]
    rfl
  have unasked : mustResolve config "inner.test" = false := by simp [mustResolve, unresolved]
  have talks := talks_escape admitted unasked ready
    (show (Transmission.failed fault).outcome config = .error fault from rfl) rfl
  have stands : StandsForInternal "inner.test" [.str "10.0.0.1"] := ⟨rfl, rfl⟩
  have kept := away _ _ _ _ _ _ _ _ leads (.inr stands) talks fun name answer found => by
    have asked : Call.resolve name ∈ [Call.permit _, Call.transmit _ _] :=
      List.mem_map_of_mem (f := Turn.call) found
    simp at asked
  exact kept.unsent _ _ _ (List.mem_of_getLast? rfl)

/-- Among the clients that block internal addresses, those that resolve names keep away from them. -/
theorem keepsAway_iff (blocks : config.blockInternal = true) :
    KeepsAway config ↔ config.resolveNames = true := by
  constructor
  · intro away
    cases resolves : config.resolveNames with
    | true => rfl
    | false => exact (not_keepsAway resolves away).elim
  · intro resolves url method headers body host addresses log result leads internal talks answers
    cases guarded : isGuarded host with
    | true =>
        obtain ⟨rfl, rfl⟩ := guarded_kept blocks leads guarded talks
        exact ⟨⟨host, rfl⟩, by simp⟩
    | false =>
        exact resolved_kept blocks resolves leads guarded
          (internal.resolve_left (by simp [guarded])) talks answers

/-- A client for production refuses local names and internal addresses before it asks anything. It
keeps away from all that is internal once it resolves names, which it is not set up to do. -/
theorem production_keepsAway_iff {settings : Settings} (production : settings.isProduction = true) :
    (∀ url method headers body host log result, Leads url host → isGuarded host →
      Talks (request (.ofSettings settings) url method headers body) log result →
      log = [] ∧ result = .error (.addressBlocked (.str host))) ∧
    (Config.ofSettings settings).resolveNames = false ∧
    ∀ resolves, KeepsAway { Config.ofSettings settings with resolveNames := resolves } ↔
      resolves = true :=
  ⟨fun _ _ _ _ _ _ _ => guarded_kept production, rfl, fun _ => keepsAway_iff production⟩

/-- The settings of a production system. -/
def inProduction : Settings :=
  { environment := "production" }

theorem loopback_kept : inProduction.isProduction = true ∧
    Leads (.str "http://127.0.0.1/") "127.0.0.1" ∧ isGuarded "127.0.0.1" = true ∧
    (∃ log result, Talks (request (.ofSettings inProduction) (.str "http://127.0.0.1/") "GET"
      (.obj []) (.value .null)) log result ∧ log = [] ∧
      result = .error (.addressBlocked (.str "127.0.0.1"))) ∧
    KeepsAway { Config.ofSettings inProduction with resolveNames := true } := by
  have leads : Leads (.str "http://127.0.0.1/") "127.0.0.1" := ⟨_, rfl, .inl rfl, rfl⟩
  have guarded : isGuarded "127.0.0.1" = true := by decide
  have refuses : admittedHost (.ofSettings inProduction) (.str "http://127.0.0.1/") =
      .error (.addressBlocked (.str "127.0.0.1")) := by
    rw [admittedHost_eq leads, guarded]
    rfl
  have facts := @production_keepsAway_iff inProduction rfl
  have talks : Talks (request (.ofSettings inProduction) (.str "http://127.0.0.1/") "GET" (.obj [])
      (.value .null)) [] (.error (.addressBlocked (.str "127.0.0.1"))) := talks_refused refuses
  exact ⟨rfl, leads, guarded, ⟨_, _, talks, facts.1 _ _ _ _ _ _ _ leads guarded talks⟩,
    facts.2.2 true |>.mpr rfl⟩

/-- What a service on the inside tells. -/
def secret : Response where
  status := 200
  reason := "OK"
  headers := []
  chunks := [[115, 101, 99, 114, 101, 116]]

theorem secret_outcome :
    (Transmission.answered secret).outcome (.ofSettings inProduction) = .ok (.str "secret") := by
  have within : checkSize (Config.ofSettings inProduction).maxPayload ((0 + 6 : Nat) : Int) =
      .ok () := checkSize_int (by decide)
  have arrived : collect (Config.ofSettings inProduction).maxPayload 0 secret.pieces =
      .ok [115, 101, 99, 114, 101, 116] := by
    have pieces : secret.pieces = [.ok [115, 101, 99, 114, 101, 116]] := rfl
    rw [pieces, collect]
    exact bind_ok_iff.mpr ⟨_, rfl, bind_ok_iff.mpr ⟨_, within, rfl⟩⟩
  have read : decodeBody (secret.header? "content-type") [115, 101, 99, 114, 101, 116] =
      .ok (.str "secret") := rfl
  show secret.value (Config.ofSettings inProduction).maxPayload = _
  rw [value_eq rfl]
  refine bind_ok_iff.mpr ⟨none, rfl, bind_ok_iff.mpr ⟨(), rfl, ?_⟩⟩
  exact bind_ok_iff.mpr ⟨_, arrived, read⟩

/-- A client for production calls a name that stands for an internal address, and hands on what it
finds there. -/
theorem production_reaches_inside : ∃ (log : List NetworkTurn) (sent : Except Failure Outgoing)
    (limit : Value),
    inProduction.isProduction = true ∧ Leads (.str "http://inner.test/") "inner.test" ∧
    StandsForInternal "inner.test" [.str "10.0.0.1"] ∧
    Talks (request (.ofSettings inProduction) (.str "http://inner.test/") "GET" (.obj [])
      (.value .null)) log (.ok (.str "secret")) ∧
    transmitted sent limit (.answered secret) ∈ log := by
  obtain ⟨prepared, ready⟩ : ∃ prepared, prepare (.ofSettings inProduction) "inner.test"
      (Text.upper "GET") (.str "http://inner.test/") (.obj []) (.value .null) = .ok prepared :=
    ⟨_, rfl⟩
  have leads : Leads (.str "http://inner.test/") "inner.test" := ⟨_, rfl, .inl rfl, rfl⟩
  have admitted : admittedHost (.ofSettings inProduction) (.str "http://inner.test/") =
      .ok "inner.test" := by
    have unguarded : isGuarded "inner.test" = false := rfl
    rw [admittedHost_eq leads, unguarded, Bool.and_false]
    rfl
  have talks := talks_served admitted rfl ready secret_outcome
  exact ⟨_, _, _, rfl, leads, ⟨rfl, rfl⟩, talks, .tail _ (.head _)⟩

end Orchestra.Http
