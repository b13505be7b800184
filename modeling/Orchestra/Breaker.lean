import Orchestra.Value.Basic

/-!
Circuit breakers, one per host.

A host gets an entry with its first failure. When the failures in a row reach the threshold the
breaker opens and rejects calls; once the recovery time has passed a single probe is admitted,
whose success drops the entry and whose failure opens the breaker again. A probe that never
reports back is given up after another recovery time.

Time is any type with differences and an order.
-/

namespace Orchestra

/-- Whether calls pass, are rejected, or are probed. -/
inductive BreakerState where
  | closed
  | opened
  | halfOpen
deriving DecidableEq, Repr

def BreakerState.name : BreakerState → String
  | .closed => "closed"
  | .opened => "open"
  | .halfOpen => "half-open"

/-- What is known of the failures of one host. -/
structure BreakerEntry (Time : Type) where
  failures : Nat
  lastFailure : Time
  state : BreakerState
  probeStarted : Option Time

/-- An entry as plain data, where time is counted in seconds. -/
def BreakerEntry.toFields (entry : BreakerEntry Float) : Fields :=
  [("state", .str entry.state.name), ("failures", .int entry.failures),
    ("last_failure", .float entry.lastFailure),
    ("probe_in_flight", .bool entry.probeStarted.isSome)]

structure Breaker (Time : Type) where
  threshold : Int
  recovery : Time
  entries : List (String × BreakerEntry Time)

/-- Why a call is not admitted, and after which time the next one may be. -/
structure Rejection (Time : Type) where
  failures : Nat
  threshold : Int
  retryAfter : Time

namespace Breaker

variable {Time : Type}

def empty (threshold : Int) (recovery : Time) : Breaker Time :=
  ⟨threshold, recovery, []⟩

def entry? (breaker : Breaker Time) (host : String) : Option (BreakerEntry Time) :=
  breaker.entries.lookup host

/-- Replaces an entry in its place, or appends it. -/
def putEntry (host : String) (entry : BreakerEntry Time) :
    List (String × BreakerEntry Time) → List (String × BreakerEntry Time)
  | [] => [(host, entry)]
  | (name, old) :: rest =>
    if name == host then (name, entry) :: rest else (name, old) :: putEntry host entry rest

def put (breaker : Breaker Time) (host : String) (entry : BreakerEntry Time) : Breaker Time :=
  { breaker with entries := putEntry host entry breaker.entries }

/-- Forgets a host. -/
def drop (breaker : Breaker Time) (host : String) : Breaker Time :=
  { breaker with entries := breaker.entries.filter fun entry => entry.1 != host }

/-- Counts a failed call; at the threshold the breaker opens. -/
def recordFailure (breaker : Breaker Time) (host : String) (now : Time) : Breaker Time :=
  let (failures, state) :=
    match breaker.entry? host with
    | some entry => (entry.failures + 1, entry.state)
    | none => (1, .closed)
  breaker.put host {
    failures
    lastFailure := now
    state := if breaker.threshold ≤ failures then .opened else state
    probeStarted := none }

/-- Counts a successful call; that of a probe drops the entry. -/
def recordSuccess (breaker : Breaker Time) (host : String) : Breaker Time :=
  match breaker.entry? host with
  | none => breaker
  | some entry =>
    if entry.state = .halfOpen then breaker.drop host
    else breaker.put host { entry with failures := 0 }

/-- Forgets one host, or all of them when no host is named. -/
def reset (breaker : Breaker Time) (host : Option String) : Breaker Time :=
  match host.filter (· != "") with
  | some name => breaker.drop name
  | none => { breaker with entries := [] }

/-- The entry after admitting a probe. -/
def admitProbe (breaker : Breaker Time) (host : String) (entry : BreakerEntry Time) (now : Time) :
    Breaker Time :=
  breaker.put host { entry with state := .halfOpen, probeStarted := some now }

def reject (breaker : Breaker Time) (entry : BreakerEntry Time) (retryAfter : Time) :
    Option (Rejection Time) :=
  some ⟨entry.failures, breaker.threshold, retryAfter⟩

/-- What is known of all hosts. -/
def status (breaker : Breaker Float) : Fields :=
  breaker.entries.map fun (host, entry) => (host, .obj entry.toFields)

variable [Sub Time] [LT Time] [DecidableLT Time] [LE Time] [DecidableLE Time]

/-- Asks to admit a call at a time: the reason of a rejection, and the breaker afterwards. -/
def check (breaker : Breaker Time) (host : String) (now : Time) :
    Option (Rejection Time) × Breaker Time :=
  match breaker.entry? host with
  | none => (none, breaker)
  | some entry =>
    match entry.state with
    | .closed => (none, breaker)
    | .halfOpen =>
      match entry.probeStarted with
      | some started =>
        if now - started < breaker.recovery then
          (breaker.reject entry (breaker.recovery - (now - started)), breaker)
        else (none, breaker.admitProbe host entry now)
      | none => (none, breaker.admitProbe host entry now)
    | .opened =>
      if breaker.recovery ≤ now - entry.lastFailure then
        (none, breaker.admitProbe host entry now)
      else (breaker.reject entry (breaker.recovery - (now - entry.lastFailure)), breaker)

end Breaker

end Orchestra
