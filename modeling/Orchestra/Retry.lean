import Orchestra.Failure

/-!
Retry strategies: whether a failed attempt may be repeated, and after which delay in seconds.
-/

namespace Orchestra.Retry

/-- How the delay grows with the attempts. -/
inductive Policy where
  | fixed
  | exponential
  | linear
  | none
deriving DecidableEq, Repr

namespace Policy

def name : Policy → String
  | .fixed => "fixed"
  | .exponential => "exponential"
  | .linear => "linear"
  | .none => "none"

def ofName? (name : String) : Option Policy :=
  [Policy.fixed, .exponential, .linear, .none].find? fun policy => policy.name == name

/-- The policy that a value names. -/
def ofValue (value : Value) : Except Failure Policy :=
  match value.str?.bind ofName? with
  | some policy => .ok policy
  | _ => .error (.value (value.literal ++ " is not a valid RetryPolicy"))

end Policy

/-- What to repeat and when. The amounts are values, since strategies are also described by data;
one that is no number shows when it is counted with. -/
structure Strategy where
  policy : Policy
  maxRetries : Value := .int 3
  baseDelay : Value := .float 1.0
  maxDelay : Value := .float 300.0
  multiplier : Value := .float 2.0
  jitter : Value := .bool false
  jitterRange : Value := .float 0.5

namespace Strategy

/-- No retries. -/
def never : Strategy :=
  { policy := .none, maxRetries := .int 0 }

/-- The same delay before every retry. -/
def fixed (maxRetries delay : Value) : Strategy :=
  { policy := .fixed, maxRetries, baseDelay := delay, maxDelay := delay }

/-- A delay that is multiplied after every retry, up to a greatest one. -/
def exponential (maxRetries baseDelay maxDelay multiplier jitter : Value) : Strategy :=
  { policy := .exponential, maxRetries, baseDelay, maxDelay, multiplier, jitter }

/-- A delay that grows by the same amount with every retry, up to a greatest one. -/
def linear (maxRetries baseDelay maxDelay : Value) : Strategy :=
  { policy := .linear, maxRetries, baseDelay, maxDelay }

/-- What becomes of a delay that is no real number: it has no order with the greatest one, if there is
such a delay at all. -/
def complexFault (strategy : Strategy) : OperandFault :=
  let base := strategy.baseDelay
  if base.isSequence then .unrepeatable "complex"
  else if base.number?.isSome then .unordered "<" strategy.maxDelay.kindName "complex"
  else .unsupported "*" base.kindName "complex"

/-- The delay of an attempt, which is at least the first one, before the greatest delay and the
jitter are taken into account. -/
def growth (strategy : Strategy) (attempt : Value) : Except OperandFault Value :=
  match strategy.policy with
  | .exponential => do
    let exponent ← attempt.minus (.int 1)
    if strategy.multiplier.hasComplexPower exponent then throw strategy.complexFault
    strategy.baseDelay.times (← strategy.multiplier.power exponent)
  | .linear => strategy.baseDelay.times attempt
  | .fixed | .none => .ok strategy.baseDelay

/-- A delay plus or minus an amount; `draw` is a random number from zero to one. -/
def spread (draw delay amount : Number) : Except RangeError Number := do
  let width ← amount.sub amount.neg
  let shift ← amount.neg.add (← width.mul draw)
  return Number.greatest (.float 0.0) (← delay.add shift)

/-- Moves a delay by up to its share `jitterRange` in either direction, never below zero. -/
def jittered (strategy : Strategy) (draw : Number) (delay : Value) : Except OperandFault Value := do
  let amount ← (← delay.times strategy.jitterRange).signed
  let delay ← delay.signed
  return .ofNumber (← (spread draw delay amount).mapError .range)

/-- The delay before the attempt after the given one, to the millisecond; attempts count from
one. -/
def delay (strategy : Strategy) (draw : Number) (attempt : Value) : Except OperandFault Value :=
  if strategy.policy == .none then .ok (.float 0.0)
  else do
    let capped ← (← strategy.growth (← attempt.greatest (.int 1))).least strategy.maxDelay
    let final ←
      if strategy.jitter.truthy then
        if ← capped.greater (.int 0) then strategy.jittered draw capped else pure capped
      else pure capped
    final.rounded 3

/-- Another attempt is allowed after `attempt` failures, the last of which was `error`. -/
def allows (strategy : Strategy) (attempt : Value) (error : Option Failure) :
    Except OperandFault Bool :=
  if strategy.policy == .none then .ok false
  else do
    if ← attempt.greater strategy.maxRetries then return false
    match error with
    | some failure => return (← failure.retryable).getD true
    | none => return true

/-- The strategy that settings describe; without a policy it is exponential. -/
def ofFields (settings : Fields) : Except Failure Strategy := do
  let policy ← Policy.ofValue (settings.valueD "policy" (.str "exponential"))
  return {
    policy
    maxRetries := settings.valueD "max_retries" (.int 3)
    baseDelay := settings.valueD "base_delay" (.float 1.0)
    maxDelay := settings.valueD "max_delay" (.float 300.0)
    multiplier := settings.valueD "multiplier" (.float 2.0)
    jitter := settings.valueD "jitter" (.bool false)
    jitterRange := settings.valueD "jitter_range" (.float 0.5) }

/-- The options of the strategies that are known by name, with their defaults. -/
def optionsOf? (name : String) : Option Fields :=
  match name with
  | "none" => some []
  | "fixed" => some [("max_retries", .int 3), ("delay", .float 5.0)]
  | "exponential" =>
    some [("max_retries", .int 5), ("base_delay", .float 1.0), ("max_delay", .float 60.0),
      ("multiplier", .float 2.0), ("jitter", .bool false)]
  | "linear" => some [("max_retries", .int 5), ("base_delay", .float 2.0), ("max_delay", .float 30.0)]
  | _ => none

/-- The strategies that are known by name, with their options. -/
def named (name : String) (options : Fields) : Strategy :=
  let option (key : String) : Value := options.valueD key .null
  match name with
  | "fixed" => fixed (option "max_retries") (option "delay")
  | "exponential" =>
    exponential (option "max_retries") (option "base_delay") (option "max_delay")
      (option "multiplier") (option "jitter")
  | "linear" => linear (option "max_retries") (option "base_delay") (option "max_delay")
  | _ => never

/-- The strategy that a description asks for: by its settings, or by a name with options. -/
def described (description : Fields) : Except Failure Strategy :=
  if description.has "config" then ofFields (description.inner "config")
  else
    let name := ((description.get? "factory").bind Value.str?).getD ""
    match optionsOf? name with
    | none => .error (.value "unknown strategy")
    | some options =>
      match (description.inner "args").keys.find? fun key => !options.has key with
      | some key =>
        .error (.type ("RetryStrategy." ++ name ++ "() got an unexpected keyword argument '" ++ key
          ++ "'"))
      | none => .ok (named name (options.overlay (description.inner "args")))

/-- The settings that describe a strategy. -/
def toFields (strategy : Strategy) : Fields :=
  [("policy", .str strategy.policy.name), ("max_retries", strategy.maxRetries),
    ("base_delay", strategy.baseDelay), ("max_delay", strategy.maxDelay),
    ("multiplier", strategy.multiplier), ("jitter", strategy.jitter),
    ("jitter_range", strategy.jitterRange)]

end Strategy

end Orchestra.Retry
