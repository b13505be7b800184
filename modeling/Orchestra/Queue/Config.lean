import Orchestra.Settings.Basic

/-!
The configuration of a queue: how many jobs run at once, and how failed ones are repeated.
-/

namespace Orchestra

structure QueueConfig where
  maxConcurrent : Int
  /-- The attempts of a job whose workflow does not say. -/
  maxRetries : Int
  strategy : Retry.Strategy

namespace QueueConfig

/-- The strategy of a queue that is given none. -/
def defaultStrategy (maxRetries : Int) : Retry.Strategy :=
  .exponential (.int maxRetries) (.float 1.0) (.float 60.0) (.float 2.0) (.bool false)

/-- A queue described by its parts, each with its default. -/
def ofParts (maxConcurrent maxRetries : Option Int) (strategy : Option Retry.Strategy) :
    QueueConfig :=
  { maxConcurrent := maxConcurrent.getD 10
    maxRetries := maxRetries.getD 3
    strategy := strategy.getD (defaultStrategy (maxRetries.getD 3)) }

/-- The queue that a description asks for; what is no number counts as none at all. -/
def ofFields (description : Fields) : Except Failure QueueConfig := do
  let whole (name : String) : Option Int := (description.get? name).map Value.ceiling
  let strategy ←
    match description.get? "strategy" with
    | some (.obj fields) => (Retry.Strategy.described fields).map some
    | _ => pure none
  return ofParts (whole "max_concurrent") (whole "max_retries") strategy

/-- The delays that settings ask for; a policy without delays counts as exponential. -/
def strategyOf (settings : Settings) : Retry.Policy → Retry.Strategy
  | .linear =>
    .linear (.int settings.maxRetries) (.float settings.retryDelay) (.float settings.maxRetryDelay)
  | .fixed => .fixed (.int settings.maxRetries) (.float settings.retryDelay)
  | .exponential | .none =>
    .exponential (.int settings.maxRetries) (.float settings.retryDelay)
      (.float settings.maxRetryDelay) (.float 2.0) (.bool false)

/-- The queue that settings ask for. -/
def ofSettings (settings : Settings) : Except Failure QueueConfig := do
  let policy ← Retry.Policy.ofValue (.str settings.backoff)
  return {
    maxConcurrent := settings.maxConcurrent
    maxRetries := settings.maxRetries
    strategy := strategyOf settings policy }

/-- The configuration by name. -/
def toFields (config : QueueConfig) : Fields :=
  [("max_concurrent", .int config.maxConcurrent), ("max_retries", .int config.maxRetries),
    ("strategy", .obj config.strategy.toFields)]

/-- Why no number can be compared with a setting: it is there, and it is none. -/
def orderFault? (description : Fields) (name : String) : Option Failure :=
  (description.get? name).bind fun setting =>
    match (Value.int 0).less setting with
    | .error fault => some (.operand fault)
    | .ok _ => none

end QueueConfig

end Orchestra
