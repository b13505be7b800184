import Orchestra.Circuit
import Orchestra.Http.Client
import Orchestra.Http.Cookie
import Orchestra.Rehearsal.Script

/-!
A scripted network, and the state of the HTTP client that uses it.
-/

namespace Orchestra.Rehearsal

/-- What an endpoint makes of one request: a response or a failure, after some seconds. -/
structure Reply where
  seconds : Float := 0.0
  answer : Except Failure Http.Response

namespace Reply

/-- A response whose body comes in pieces. -/
def streamed (status : Int) (reason : Option String) (headers : List (String × String))
    (chunks : List (List UInt8)) : Http.Response :=
  { status, reason := reason.getD (Http.phrase status), headers, chunks }

/-- A response with a whole body, which declares its length unless the headers do, and which is read
at once. -/
def whole (status : Int) (reason : Option String) (headers : List (String × String))
    (body : List UInt8) : Except Failure Http.Response :=
  let response := streamed status reason headers [body]
  let length := String.ofList (Text.naturalText body.length)
  Http.Response.read
    (match response.header? "content-length" with
      | some _ => response
      | none => { response with headers := headers ++ [("content-length", length)] })

end Reply

/-- A number of seconds as a double; one beyond all doubles lasts for ever. -/
def secondsOf (amount : Number) : Float :=
  match amount.toFloat with
  | .ok seconds => seconds
  | .error _ => 1.0 / 0.0

structure Web where
  config : Http.Config := {}
  circuit : Circuit
  /-- The replies of each host. -/
  endpoints : Scripts Reply := []
  /-- What each host name resolves to, or why it does not. -/
  addresses : List (String × Except String (List Value)) := []
  cookies : Http.CookieJar := {}

namespace Web

/-- A client that was not used yet. -/
def ofConfig (config : Http.Config) (endpoints : Scripts Reply)
    (addresses : List (String × Except String (List Value))) : Web :=
  { config
    circuit := .ofValues config.threshold config.resetTimeout
    endpoints
    addresses }

instance : Inhabited Web := ⟨ofConfig {} [] []⟩

/-- The addresses of a host name. -/
def resolve (web : Web) (host : String) : Except Failure (List Value) :=
  match web.addresses.lookup host with
  | some (.ok addresses) => .ok addresses
  | some (.error reason) => .error (.system reason)
  | none => .error (.system "unknown host")

/-- Asks the breaker to admit a call. -/
def permit (web : Web) (host : String) (now : Float) : Except Failure Unit × Web :=
  let (admission, circuit) := web.circuit.check host now
  (admission, { web with circuit })

/-- Tells the breaker how a call ended. -/
def settle (web : Web) (host : String) (success : Bool) (now : Float) :
    Except Failure Unit × Web :=
  if success then (.ok (), { web with circuit := web.circuit.recordSuccess host })
  else
    let (outcome, circuit) := web.circuit.recordFailure host now
    (outcome, { web with circuit })

/-- The moment that cookies are judged at: no time of the calendar passes during a rehearsal. -/
def moment : Int := 0

/-- A request with the cookies for it. -/
def addressed (web : Web) (request : Http.Outgoing) : Except Failure Http.Outgoing :=
  if web.cookies.cookies.isEmpty then .ok request
  else if request.target.isRelative then .error (unknownKind request)
  else .ok (request.withCookies web.cookies moment)
where
  /-- Cookies belong to hosts, and a relative URL names none. -/
  unknownKind (request : Http.Outgoing) : Failure :=
    .value ("unknown url type: " ++ Value.quoted request.url)

/-- Keeps the cookies that a response offers. -/
def keepCookies (web : Web) (request : Http.Outgoing) (response : Http.Response) : Web :=
  { web with cookies := web.cookies.receive request.target moment response.cookieHeaders }

/-- A closed client forgets its cookies. -/
def close (web : Web) : Web :=
  { web with cookies := {} }

/-- The reply of a host. -/
def reply (web : Web) (host : String) : Option Reply × Web :=
  let (reply, endpoints) := web.endpoints.next host
  (reply, { web with endpoints })

end Web

end Orchestra.Rehearsal
