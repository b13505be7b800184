import Orchestra.Http.Coding
import Orchestra.Http.Guard
import Orchestra.Http.MediaType
import Orchestra.Json.Printer
import Orchestra.Json.Reader
import Orchestra.Program

/-!
A resilient HTTP client.

A request is checked first: its URL, the addresses of its host, and the size of its body. Each
attempt must be admitted by the breaker of its host and reports its outcome there. Attempts that may
succeed when repeated are repeated, after growing delays.
-/

namespace Orchestra.Http

/-- What the network makes of a request within a time limit. -/
inductive Transmission where
  | timedOut
  | failed (failure : Failure)
  | answered (response : Response)

/-- What the client asks of its surroundings. -/
inductive Call where
  /-- May the host be called now? -/
  | permit (host : String)
  /-- Report the outcome of an admitted call, which may be impossible to count. -/
  | settle (host : String) (success : Bool)
  | resolve (host : String)
  /-- Send a request within a time limit, or find that it cannot be put into bytes. -/
  | transmit (request : Except Failure Outgoing) (limit : Value)
  /-- Wait for some seconds. -/
  | wait (seconds : Value)

def Call.Reply : Call → Type
  | .permit _ => Except Failure Unit
  | .settle _ _ => Except Failure Unit
  | .resolve _ => Except Failure (List Value)
  | .transmit _ _ => Transmission
  | .wait _ => Except Failure Unit

/-- The conversation between the client and the network. -/
def network : Interface :=
  ⟨Call, Call.Reply⟩

/-- A conversation with the network that may fail. -/
abbrev Exchange (α : Type) := Program network (Except Failure α)

namespace Exchange

variable {α β : Type}

def fail (failure : Failure) : Exchange α :=
  .done (.error failure)

/-- One conversation after the other; a failure ends both. -/
def andThen (first : Exchange α) (second : α → Exchange β) : Exchange β :=
  first.bind fun
    | .ok value => second value
    | .error failure => .done (.error failure)

end Exchange

/-- The methods of requests that have a body. -/
def bodyMethods : List String :=
  ["POST", "PUT", "PATCH"]

/-- The bytes of a body. -/
def Body.encoded : Body → List UInt8
  | .bytes content => content
  | .value (.str s) => utf8Bytes s
  | .value content => utf8Bytes (Json.print content)

/-- A number of bytes must keep to the cap. -/
def checkSize (cap : Value) (size : Int) : Except Failure Unit := do
  if ← ((Value.int size).greater cap).mapError Failure.operand then
    throw (.payloadTooLarge (.int size) cap)

/-- The bytes that a request sends; they must keep to the cap. -/
def encodeBody (config : Config) (method : String) (body : Body) : Except Failure (List UInt8) :=
  if body.isNull || !bodyMethods.contains method then .ok []
  else
    let content := body.encoded
    (checkSize config.maxPayload content.length).map fun () => content

/-- The headers of a request: those of every request, overlaid with its own. -/
def requestHeaders (config : Config) (own : Value) : Except Failure Fields :=
  let common : Fields :=
    [("Content-Type", .str "application/json"), ("User-Agent", config.userAgent)]
  match own with
  | .obj fields => .ok (Fields.overlay common fields)
  | value =>
    if value.truthy then
      .error (.type ("'" ++ value.kindName ++ "' object is not a mapping"))
    else .ok common

/-- The first run of characters beyond ASCII, counted from `position`: where it starts, and how long
it is. -/
def beyondAscii? (position : Nat) : List Char → Option (Nat × List Char)
  | [] => none
  | c :: rest =>
    if c.toNat < 128 then beyondAscii? (position + 1) rest
    else some (position, (c :: rest).takeWhile fun d => 128 ≤ d.toNat)

/-- A character by its number, in the shortest of three widths. -/
def escaped (c : Char) : List Char :=
  if c.toNat < 0x100 then '\\' :: 'x' :: Text.padded 16 2 c.toNat
  else if c.toNat < 0x10000 then '\\' :: 'u' :: Text.padded 16 4 c.toNat
  else '\\' :: 'U' :: Text.padded 16 8 c.toNat

/-- Why a text cannot be sent. -/
def notAscii (start : Nat) (run : List Char) : Failure :=
  let place :=
    match run with
    | [c] =>
      "character '" ++ String.ofList (escaped c) ++ "' in position "
        ++ String.ofList (Text.naturalText start)
    | _ =>
      "characters in position " ++ String.ofList (Text.naturalText start) ++ "-"
        ++ String.ofList (Text.naturalText (start + run.length - 1))
  .foreign .encoding ("'ascii' codec can't encode " ++ place ++ ": ordinal not in range(128)")

/-- A text that holds nothing but ASCII. -/
def asciiText (s : String) : Except Failure String :=
  match beyondAscii? 0 s.toList with
  | some (start, run) => .error (notAscii start run)
  | none => .ok s

/-- A text of a header. -/
def headerText (value : Value) : Except Failure String :=
  match value with
  | .str s => asciiText s
  | value => .error (.type ("Header value must be str or bytes, not <class '" ++ value.kindName ++ "'>"))

/-- The headers as they are sent. -/
def sentHeaders (headers : Fields) : Except Failure (List (String × String)) :=
  headers.mapM fun (name, value) => do
    return (← asciiText name, ← headerText value)

/-- Sets a header, whatever the case of its name. -/
def withHeader (name value : String) (headers : List (String × String)) : List (String × String) :=
  headers.filter (fun entry => Text.lower entry.1 != Text.lower name) ++ [(name, value)]

/-- A request to a URL in the form that is sent. Name and password in the URL take the place of
others. The body is asked for once URL and headers are known to be good. -/
def outgoing (method url : String) (headers : Fields) (body : Except Failure (List UInt8)) :
    Except Failure Outgoing := do
  let target ← (Target.ofText url).mapError fun fault => .foreign .url fault.message
  let target := target.fromRoot
  let headers ← sentHeaders headers
  let body ← body
  if !(headers.any fun entry => Text.lower entry.1 == "host") then
    let _ ← asciiText (String.ofList target.place)
  let host ← target.hostName.mapError Failure.domain
  let headers := match target.credentials? with
    | some credentials => withHeader "Authorization" credentials headers
    | none => headers
  return { method, target, host, headers, body }

/-- The failure of an attempt that the network did not carry out. -/
def attemptFailure (config : Config) : Failure → Failure
  | .foreign (.network fault) message =>
    if fault.isTimeout then .requestTimeout config.timeout
    else if fault.isTransport then .transport ("Network error: " ++ message)
    else .foreign (.network fault) message
  | .foreign (.system .timeout) _ => .requestTimeout config.timeout
  | .foreign (.system _) message => .transport ("Network error: " ++ message)
  | failure => failure

/-- The size that a response declares, where it declares one in digits. -/
def declaredSize (response : Response) : Except Failure (Option Int) :=
  match response.header? "content-length" with
  | none => .ok none
  | some declared =>
    let cs := declared.toList
    if cs.isEmpty || !cs.all Text.isDigit then .ok none
    else
      match Text.readBounded cs with
      | .ok size => .ok (some size)
      | .error (.tooLong count) => .error (.tooManyDigits count)
      | .error .malformed => .ok none

/-- Adds up the pieces of a body; more bytes than the cap are refused as soon as they arrive. -/
def collect (cap : Value) (received : Nat) :
    List (Except Failure (List UInt8)) → Except Failure (List UInt8)
  | [] => .ok []
  | piece :: rest => do
    let chunk ← piece
    checkSize cap (received + chunk.length : Nat)
    return chunk ++ (← collect cap (received + chunk.length) rest)

/-- A text holds another. -/
def contains (part : List Char) : List Char → Bool
  | [] => part.isEmpty
  | c :: rest => part.isPrefixOf (c :: rest) || contains part rest

/-- The failure of looking at a media type. -/
def mediaFailure : MediaType.Fault → Failure
  | .tooManyDigits count => .tooManyDigits count
  | .mixedNumbers later =>
    let (left, right) := if later then ("int", "NoneType") else ("NoneType", "int")
    .operand (.unordered "<" left right)

/-- Why bytes are not taken as text in a character set. -/
def charsetFailure (name : String) : Text.Charset.Refusal → Failure
  | .unknown => .foreign .lookup ("unknown encoding: " ++ name)
  | .notText =>
    .foreign .lookup ("'" ++ name
      ++ "' is not a text encoding; use codecs.decode() to handle arbitrary codecs")
  | .refused reason =>
    .foreign .unicode ("decoding with '" ++ name ++ "' codec failed (UnicodeError: " ++ reason
      ++ ")")

/-- The character set of a body: the one that its media type declares, or UTF-8. -/
def charsetOf (mediaType : Option String) : Except MediaType.Fault String :=
  match mediaType with
  | none => .ok "utf-8"
  | some text =>
    (MediaType.charset text).map fun declared => (declared.filter (· != "")).getD "utf-8"

/-- The value of a text: JSON where the media type says so and the text is JSON, else the text. -/
def textValue (mediaType : Option String) (text : String) : Except Failure Value :=
  if contains "application/json".toList (mediaType.getD "").toList then
    if text == "" then .ok .null
    else
      match Json.parse text with
      | .ok value => .ok value
      | .error refusal =>
        if refusal.tooDeep then .error (.foreign .recursion refusal.message) else .ok (.str text)
  else .ok (.str text)

/-- The value of a body, which is text in its character set. -/
def decodeBody (mediaType : Option String) (bytes : List UInt8) : Except Failure Value := do
  let charset ← (charsetOf mediaType).mapError mediaFailure
  let text ← (Text.Charset.decode charset bytes).mapError (charsetFailure charset)
  textValue mediaType text

/-- The value that a response carries. -/
def Response.value (response : Response) (cap : Value) : Except Failure Value := do
  if !response.isSuccess then throw (.httpStatus (.int response.status) (.str response.reason))
  if let some size ← declaredSize response then checkSize cap size
  let bytes ← collect cap 0 response.pieces
  decodeBody (response.header? "content-type") bytes

/-- Why a client cannot be sent to a place: it is no URL, its host has no name in the letters of its
script, or it cannot take the host of the request. -/
def badPlace? (place : String) : Option Failure :=
  match Target.ofText place with
  | .error fault =>
    some (.foreign (.network .remoteProtocol)
      ("Invalid URL in location header: " ++ fault.message ++ "."))
  | .ok target =>
    match target.hostName, target.checkStart with
    | .error fault, _ => some (.domain fault)
    | _, .error fault => some (.foreign .url fault.message)
    | _, _ => none

/-- Where a response sends the client to, if that is no place to go to. -/
def badRedirection? (response : Response) : Option Failure :=
  if [301, 302, 303, 307, 308].contains response.status then
    (response.header? "location").bind badPlace?
  else none

/-- What came of one transmission. -/
def Transmission.outcome (config : Config) : Transmission → Except Failure Value
  | .timedOut => .error (.requestTimeout config.timeout)
  | .failed failure => .error (attemptFailure config failure)
  | .answered response =>
    match badRedirection? response with
    | some failure => .error (attemptFailure config failure)
    | none => response.value config.maxPayload

/-- A request that passed all checks, with the host that it goes to. -/
structure Prepared where
  host : String
  method : String
  url : String
  headers : Fields
  body : List UInt8

/-- The request in the form that is sent. -/
def Prepared.outgoing (prepared : Prepared) : Except Failure Outgoing :=
  Http.outgoing prepared.method prepared.url prepared.headers (.ok prepared.body)

/-- One attempt. -/
def attempt (config : Config) (prepared : Prepared) : Exchange Value :=
  .ask (.transmit prepared.outgoing config.timeout) fun (transmission : Transmission) =>
    .done (transmission.outcome config)

/-- The failure that ends a request after its last attempt. -/
def finalFailure (attempts : Int) (failure : Failure) : Failure :=
  match failure.retryable with
  | .ok (some true) => .retriesExhausted (.int attempts) (.inr failure)
  | .ok _ => failure
  | .error fault => .operand fault

/-- Waits before the next attempt. -/
def pause (config : Config) (number : Int) : Exchange Unit :=
  match config.strategy.delay (.float 0.5) (.int number) with
  | .error fault => Exchange.fail (.operand fault)
  | .ok seconds => .ask (.wait seconds) fun (outcome : Except Failure Unit) => .done outcome

/-- Reports the outcome of a call. -/
def settle (host : String) (success : Bool) : Exchange Unit :=
  .ask (.settle host success) fun (outcome : Except Failure Unit) => .done outcome

/-- Attempts, counted from `number`, of which at most `left` may follow the next one. -/
def attempts (config : Config) (prepared : Prepared) (number : Int) (left : Nat) :
    Exchange Value :=
  .ask (.permit prepared.host) fun (admission : Except Failure Unit) =>
    match admission with
    | .error rejection => Exchange.fail rejection
    | .ok () =>
      (attempt config prepared).bind fun
        | .ok value => Exchange.andThen (settle prepared.host true) fun () => .done (.ok value)
        | .error failure =>
          if failure.isHttp then
            Exchange.andThen (settle prepared.host false) fun () =>
              match config.strategy.allows (.int number) (some failure), left with
              | .error fault, _ => Exchange.fail (.operand fault)
              | .ok true, left + 1 =>
                Exchange.andThen (pause config number) fun () =>
                  attempts config prepared (number + 1) left
              | .ok _, _ => Exchange.fail (finalFailure number failure)
          else Exchange.fail failure

/-- The addresses of a host are not internal. -/
def checkAddresses (config : Config) (host : String) : Exchange Unit :=
  if mustResolve config host then
    .ask (.resolve host) fun (answer : Except Failure (List Value)) =>
      .done (judgeAddresses host answer)
  else .done (.ok ())

/-- The parts of a request that need no network, checked. -/
def prepare (config : Config) (host method : String) (url headers : Value) (body : Body) :
    Except Failure Prepared := do
  let content ← encodeBody config method body
  let headers ← requestHeaders config headers
  return ⟨host, method, url.text, headers, content⟩

/-- Sends a request and returns the value of its response. -/
def request (config : Config) (url : Value) (method : String) (headers : Value) (body : Body) :
    Exchange Value :=
  let method := Text.upper method
  match admittedHost config url with
  | .error failure => Exchange.fail failure
  | .ok host =>
    Exchange.andThen (checkAddresses config host) fun () =>
      match prepare config host method url headers body with
      | .error failure => Exchange.fail failure
      | .ok prepared => attempts config prepared 1 config.retryBound

end Orchestra.Http
