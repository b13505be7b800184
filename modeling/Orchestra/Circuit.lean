import Orchestra.Breaker
import Orchestra.Failure

/-!
Circuits: breakers whose threshold and recovery time are values, as they were given.

A value that is no number shows as soon as it is compared with. Until then the breaker counts as one
that never opens.
-/

namespace Orchestra

structure Circuit where
  /-- Failures in a row after which the breaker of a host opens. -/
  threshold : Value := .int 5
  /-- Seconds after which an open breaker admits a probe. -/
  recovery : Value := .float 60.0
  breaker : Breaker Float

namespace Circuit

/-- More failures in a row than there ever are. -/
def never : Int := Nat.pow 2 63

/-- The least number of failures that reaches a threshold. -/
def bound (threshold : Value) : Int :=
  match (Value.int never).atLeast threshold with
  | .ok true => threshold.ceiling
  | _ => never

/-- A number of seconds as a double; one beyond all doubles lasts for ever. -/
def seconds (amount : Value) : Float :=
  match amount.number?.map Number.toFloat with
  | some (.ok x) => x
  | some (.error _) => 1.0 / 0.0
  | none => 0.0

/-- A circuit without any failures. -/
def ofValues (threshold recovery : Value) : Circuit :=
  { threshold, recovery, breaker := .empty (bound threshold) (seconds recovery) }

/-- The time that is waited for at a host cannot be compared with the recovery time. -/
def recoveryFault? (circuit : Circuit) (host : String) (now : Float) : Option Failure :=
  let faultOf (comparison : Except OperandFault Bool) : Option Failure :=
    match comparison with
    | .error fault => some (.operand fault)
    | .ok _ => none
  (circuit.breaker.entry? host).bind fun entry =>
    match entry.state, entry.probeStarted with
    | .opened, _ => faultOf ((Value.float (now - entry.lastFailure)).atLeast circuit.recovery)
    | .halfOpen, some started => faultOf ((Value.float (now - started)).less circuit.recovery)
    | _, _ => none

/-- Why a call is rejected. -/
def rejected (circuit : Circuit) (host : String) (rejection : Rejection Float) : Failure :=
  match circuit.recovery.number?.map Number.toFloat with
  | some (.error error) => .outOfRange error
  | _ =>
    .circuitOpen (.str host) (.int rejection.failures) circuit.threshold
      (.float rejection.retryAfter)

/-- Asks to admit a call at a time. -/
def check (circuit : Circuit) (host : String) (now : Float) : Except Failure Unit × Circuit :=
  match circuit.recoveryFault? host now with
  | some fault => (.error fault, circuit)
  | none =>
    let (rejection, breaker) := circuit.breaker.check host now
    let outcome : Except Failure Unit :=
      match rejection with
      | some rejection => .error (circuit.rejected host rejection)
      | none => .ok ()
    (outcome, { circuit with breaker })

/-- Counts a failed call; the count may have no order with the threshold. -/
def recordFailure (circuit : Circuit) (host : String) (now : Float) :
    Except Failure Unit × Circuit :=
  let circuit := { circuit with breaker := circuit.breaker.recordFailure host now }
  let failures : Int := ((circuit.breaker.entry? host).map BreakerEntry.failures).getD 0
  let outcome := ((Value.int failures).atLeast circuit.threshold).mapError Failure.operand
  (outcome.map fun _ => (), circuit)

/-- Counts a successful call. -/
def recordSuccess (circuit : Circuit) (host : String) : Circuit :=
  { circuit with breaker := circuit.breaker.recordSuccess host }

/-- Forgets one host, or all of them when no host is named. -/
def reset (circuit : Circuit) (host : Option String) : Circuit :=
  { circuit with breaker := circuit.breaker.reset host }

end Circuit

end Orchestra
