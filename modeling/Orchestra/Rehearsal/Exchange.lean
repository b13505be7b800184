import Orchestra.Rehearsal.World

/-!
The HTTP client over a scripted network.

A transmission takes some turns of its own besides the time that its reply takes; one that reaches
its time limit is given up, and a few turns later it is over.
-/

namespace Orchestra.Rehearsal

namespace World

/-- The reply to a request, which is entered in the transcript. -/
def serve (world : World) (request : Http.Outgoing) (time : Float) : Option Reply × World :=
  let world := world.enter (.sent request time)
  let (reply, web) := world.web.reply request.host
  (reply, { world with web })

end World

namespace Exchange

/-- Gives up a transmission. -/
def giveUp : Process World Http.Transmission := do
  Process.yields 3
  return .timedOut

/-- What comes of a reply: a response to a request for a relative URL belongs to no host. -/
def received (request : Http.Outgoing) (reply : Option Reply) : Except Failure Http.Response := do
  let response ← (reply.map Reply.answer).getD (.error (.runtime "no reply"))
  if request.target.isRelative then throw (Web.addressed.unknownKind request)
  return response

/-- A reply comes in; the client keeps the cookies that it offers. -/
def arrive (request : Http.Outgoing) (reply : Option Reply) : Process World Http.Transmission :=
  match received request reply with
  | .error failure => return .failed failure
  | .ok response =>
    Process.take fun world =>
      (.answered response, { world with web := world.web.keepCookies request response })

/-- Sends a request and waits for its reply, at most for some seconds. -/
def send (request : Http.Outgoing) (limit : Option Float) : Process World Http.Transmission := do
  let time ← Process.clock
  let reply ← Process.take (World.serve · request time)
  let seconds := (reply.map Reply.seconds).getD 0.0
  match limit with
  | none =>
    Process.pauseIfAny seconds
    arrive request reply
  | some limit =>
    if 0.0 < seconds && limit ≤ seconds then
      Process.pause limit
      giveUp
    else
      Process.pauseIfAny seconds
      Process.yields 2
      arrive request reply

/-- A transmission within a limit is a task of its own, which takes some turns to begin and to end. -/
def transmit (request : Except Failure Http.Outgoing) (limit : Value) :
    Process World Http.Transmission :=
  match limit with
  | .null => do
    match request.bind (← Process.look).web.addressed with
    | .error failure => return .failed failure
    | .ok request => send request none
  | limit =>
    match ordered limit with
    | .error failure => return .failed failure
    | .ok false => giveUp
    | .ok true => do
      Process.yield
      match request.bind (← Process.look).web.addressed with
      | .error failure =>
        Process.yields 2
        return .failed failure
      | .ok request => send request (some (secondsOf (limit.number?.getD (.int 0))))
where
  /-- There is time at all. -/
  ordered (limit : Value) : Except Failure Bool :=
    ((limit.atMost (.int 0)).map (!·)).mapError Failure.operand

/-- Waits before another attempt. -/
def wait (seconds : Value) : Process World (Except Failure Unit) :=
  match seconds.number?.map Number.toFloat with
  | some (.error error) => .done (.error (.outOfRange error))
  | some (.ok seconds) => do
    Process.pause seconds
    return .ok ()
  | none => .done (.ok ())

/-- The answers to the calls of the client. -/
def answer : (call : Http.Call) → Process World (Http.network.Reply call)
  | .permit host => do
    let now ← Process.clock
    Process.take fun world =>
      let (admission, web) := world.web.permit host now
      (admission, { world with web })
  | .settle host success => do
    let now ← Process.clock
    Process.take fun world =>
      let (outcome, web) := world.web.settle host success now
      (outcome, { world with web })
  | .resolve host => do
    return (← Process.look).web.resolve host
  | .transmit request limit => transmit request limit
  | .wait seconds => wait seconds

/-- Sends a request through the client. -/
def request (url : Value) (method : String) (headers : Value) (body : Http.Body) :
    Process World (Except Failure Value) := do
  let world ← Process.look
  Program.lower answer (Http.request world.web.config url method headers body)

end Exchange

end Orchestra.Rehearsal
