import Orchestra.Settings.Basic

/-!
The configuration of an HTTP client: time limit, payload cap, retries, breaker and guard.

What is only compared, printed or handed on is a value, as it was given.
-/

namespace Orchestra.Http

structure Config where
  /-- Seconds for one attempt; null sets no limit. -/
  timeout : Value := .float 30.0
  /-- The greatest number of bytes of a body, in either direction. -/
  maxPayload : Value := .int 10485760
  retries : Value := .int 3
  retryDelay : Value := .float 1.0
  maxRetryDelay : Value := .float 10.0
  multiplier : Value := .float 2.0
  /-- Failures in a row after which the breaker of a host opens. -/
  threshold : Value := .int 5
  /-- Seconds after which an open breaker admits a probe. -/
  resetTimeout : Value := .float 60.0
  blockInternal : Bool := false
  resolveNames : Bool := false
  userAgent : Value := .str "workflow-orchestrator"

namespace Config

/-- The delays between the attempts of a request. -/
def strategy (config : Config) : Retry.Strategy :=
  .exponential config.retries config.retryDelay config.maxRetryDelay config.multiplier (.bool false)

/-- More attempts than any test of them takes time for. -/
def endless : Nat := 1000000000

/-- A bound for the number of attempts after the first. -/
def retryBound (config : Config) : Nat :=
  match config.retries.number? with
  | some (.int n) => n.toNat
  | some (.float x) =>
    match (Decimal.Binary.ofFloat x).truncate? with
    | some n => n.toNat
    | none => endless
  | none => 0

/-- The client that settings ask for; only in production it keeps away from internal addresses. -/
def ofSettings (settings : Settings) : Config :=
  { timeout := .float settings.httpTimeout
    maxPayload := .int settings.httpMaxPayload
    retries := .int settings.httpRetries
    retryDelay := .float settings.httpRetryDelay
    maxRetryDelay := .float settings.httpMaxRetryDelay
    threshold := .int settings.httpThreshold
    resetTimeout := .float settings.httpResetTimeout
    blockInternal := settings.isProduction
    userAgent := .str settings.userAgent }

/-- A client described by options, each with its default. -/
def ofFields (options : Fields) : Config :=
  let option (name : String) (default : Value) := options.valueD name default
  { timeout := option "timeout" (.float 30.0)
    maxPayload := option "max_payload_size" (.int 10485760)
    retries := option "retries" (.int 3)
    retryDelay := option "retry_delay" (.float 1.0)
    maxRetryDelay := option "max_retry_delay" (.float 10.0)
    multiplier := option "backoff_multiplier" (.float 2.0)
    threshold := option "circuit_breaker_threshold" (.int 5)
    resetTimeout := option "circuit_breaker_reset_timeout" (.float 60.0)
    blockInternal := (option "block_private_addresses" (.bool false)).truthy
    resolveNames := (option "resolve_hostnames" (.bool false)).truthy
    userAgent := option "user_agent" (.str "workflow-orchestrator") }

/-- The configuration by name. -/
def toFields (config : Config) : Fields :=
  [("timeout", config.timeout), ("max_payload_size", config.maxPayload),
    ("retries", config.retries), ("block", .bool config.blockInternal),
    ("resolve", .bool config.resolveNames), ("user_agent", config.userAgent),
    ("strategy", .obj config.strategy.toFields), ("threshold", config.threshold),
    ("reset", config.resetTimeout)]

end Config

end Orchestra.Http
