import Orchestra.Calendar
import Orchestra.Http.Client
import Orchestra.Json.Bytes
import Orchestra.Notification.Adapter

/-!
Delivery of messages.

An adapter talks to the outside and reports the outcome. What an adapter expects to go wrong is part
of its report; anything else ends the delivery.
-/

namespace Orchestra.Notification

/-- The outcome of a delivery. -/
structure Receipt where
  success : Bool
  adapter : Value
  recipient : Value := .str ""
  message : String := ""
  error : Option String := none
  deliveredAt : Option Stamp := none

/-- A receipt as plain data. -/
def Receipt.toFields (receipt : Receipt) : Fields :=
  [("success", .bool receipt.success), ("adapter", receipt.adapter),
    ("recipient", receipt.recipient), ("message", .str receipt.message),
    ("error", .ofString? receipt.error),
    ("delivered_at", .ofString? (receipt.deliveredAt.map Calendar.stampText))]

/-- What adapters ask of the outside. -/
inductive Call where
  | now
  /-- Write a message into the log. -/
  | log (adapter : Nat) (message : Message)
  /-- Send a request through the HTTP client. -/
  | fetch (url : Value) (headers body : Value)
  /-- Post a payload without retries and limits. -/
  | post (adapter : Nat) (request : Http.Outgoing) (payload : Value)
  /-- Add text at the end of a file, whose folders are made when they are missing. -/
  | append (file text : String)
  | connect (host port : Value)
  | secure
  | login (user password : Value)
  | sendMail (sender recipient : Value) (text : String)
  | quit

def Call.Reply : Call → Type
  | .now => Stamp
  | .log .. => Unit
  | .fetch .. => Except Failure Value
  | .post .. => Except Failure Http.Response
  | .append .. => Except Failure Unit
  | .connect .. => Except Failure Unit
  | .secure => Except Failure Unit
  | .login .. => Except Failure Unit
  | .sendMail .. => Except Failure Unit
  | .quit => Unit

/-- The conversation between adapters and the outside. -/
def outside : Interface :=
  ⟨Call, Call.Reply⟩

/-- A conversation with the outside that may fail. -/
abbrev Errand (α : Type) := Program outside (Except Failure α)

namespace Adapter

def failed (adapter : Adapter) (error : String) (recipient : Value) : Receipt :=
  { success := false
    adapter := adapter.name
    recipient := if recipient.truthy then recipient else .str ""
    error := some error }

/-- Ends a delivery that succeeded. -/
def delivered (adapter : Adapter) (recipient : Value) (message : String) : Errand Receipt :=
  .ask .now fun (stamp : Stamp) => .done (.ok {
    success := true
    adapter := adapter.name
    recipient := if recipient.truthy then recipient else .str ""
    message
    deliveredAt := some stamp })

def deliverToConsole (adapter : Adapter) (message : Message) : Errand Receipt :=
  .ask (.log adapter.number message) fun _ => adapter.delivered message.recipient "Logged"

/-- The recipient is the address of an HTTP endpoint. -/
def isEndpoint (recipient : Value) : Except Failure Bool :=
  if !recipient.truthy then .ok false
  else
    match recipient with
    | .str s => .ok ("http://".isPrefixOf s || "https://".isPrefixOf s)
    | value => .error (.noAttribute value "startswith")

/-- The headers of a notification, with those of the adapter over them. -/
def webhookHeaders (headers : Value) : Except Failure Value :=
  let own : Fields := [("X-Workflow-Event", .str "notification")]
  match headers with
  | .obj fields => .ok (.obj (Fields.overlay own fields))
  | value =>
    if value.truthy then
      .error (.type ("'" ++ value.kindName ++ "' object is not a mapping"))
    else .ok (.obj own)

def webhookPayload (message : Message) (stamp : Stamp) : Value :=
  .obj [("channel", message.channel), ("to", message.recipient), ("subject", message.subject),
    ("body", message.body), ("metadata", message.metadata),
    ("timestamp", .str (Calendar.stampText stamp))]

def deliverToWebhook (adapter : Adapter) (url headers : Value) (message : Message) :
    Errand Receipt :=
  match isEndpoint message.recipient, webhookHeaders headers with
  | .error failure, _ => .done (.error failure)
  | .ok direct, headers =>
    let target := if direct then message.recipient else url
    if !target.truthy then .done (.ok (adapter.failed "No webhook URL" .null))
    else
      match message.created, headers with
      | some stamp, _ => .done (.error (.noAttribute stamp "isoformat"))
      | none, .error failure => .done (.error failure)
      | none, .ok headers =>
        .ask .now fun (stamp : Stamp) =>
          .ask (.fetch target headers (webhookPayload message stamp))
            fun (answer : Except Failure Value) =>
              match answer with
              | .error failure => .done (.error failure)
              | .ok _ => adapter.delivered target "Webhook delivered"

/-- A text of two numbers with a point between them; a line may end after it. -/
def isThreadStamp (s : String) : Bool :=
  let cs := if s.toList.getLast? == some '\n' then s.toList.dropLast else s.toList
  let whole := cs.takeWhile Text.isDigit
  match cs.drop whole.length with
  | '.' :: fraction => !whole.isEmpty && !fraction.isEmpty && fraction.all Text.isDigit
  | _ => false

/-- The first of two values that is not empty, else the second. -/
def either (first second : Value) : Value :=
  if first.truthy then first else second

/-- The parts of a chat payload that come from the metadata of a message. -/
def threadFields (metadata : Fields) : Fields :=
  let part (name : String) := metadata.valueD name .null
  (match either (part "thread_ts") (part "threadTs") with
    | .str stamp => if isThreadStamp stamp then [("thread_ts", .str stamp)] else []
    | _ => [])
  ++ (match part "blocks" with
    | .list blocks => [("blocks", .list blocks)]
    | _ => [])
  ++ (match part "mrkdwn" with
    | .bool b => [("mrkdwn", .bool b)]
    | _ => [])

/-- The payload of a chat message. -/
def slackPayload (message : Message) (channel : Value) : Except Failure Value :=
  let text := either (either message.body message.subject) (.str "Notification")
  let head : Fields := [("channel", channel), ("text", text)]
  match message.metadata with
  | .obj fields => .ok (.obj (head ++ threadFields fields))
  | value =>
    if value.truthy then .error (.noAttribute value "get") else .ok (.obj head)

/-- A failure that the chat adapter expects. -/
def isExpected : Failure → Bool
  | .foreign kind _ =>
    match kind with
    | .network _ | .value | .encoding | .unicode | .domain _ => true
    | _ => false
  | _ => false

/-- The text of a response in the character set it declares, where that is known. -/
def responseText (response : Http.Response) : Except Failure String := do
  let bytes ← response.body
  let declared ← ((response.header? "content-type").mapM Http.MediaType.charset).mapError
    Http.mediaFailure
  let name := (declared.join.filter fun name => (Text.Charset.ofName? name).isSome).getD "utf-8"
  match Text.Charset.ofName? name with
  | some (.decoder decode) => return String.ofList (decode bytes).replaced
  | some (.transform true) =>
    if bytes.isEmpty then return "" else throw (.foreign .assertion "")
  | some (.transform false) =>
    if bytes.isEmpty then return ""
    else
      throw (.type
        "descriptor 'translate' for 'str' objects doesn't apply to a 'bytes' object")
  | some (.refusing reason) =>
    if bytes.isEmpty then return "" else throw (.foreign .unicode reason)
  | none => return ""

/-- What the chat service says about a message: nothing, or why it was not posted. -/
def slackVerdict (response : Http.Response) : Except Failure (Option String) := do
  if let some failure := Http.badRedirection? response then throw failure
  let bytes ← response.body
  if !response.isSuccess then return some (← responseText response)
  match Json.ofBytes bytes with
  | .error refusal =>
    throw (if refusal.tooDeep then .foreign .recursion refusal.message else .value refusal.message)
  | .ok (.obj fields) =>
    let part (name : String) := Fields.valueD fields name .null
    if (part "ok").truthy then return none
    else return some (either (part "error") (.str "unknown_error")).text
  | .ok value => throw (.noAttribute value "get")

def slackError (error : String) : String :=
  "Slack API error: " ++ error

mutual

/-- All numbers in a value are finite. -/
def isFinite : Value → Bool
  | .float x => x.isFinite
  | .list items => areFinite items
  | .obj fields => fieldsAreFinite fields
  | _ => true

def areFinite : List Value → Bool
  | [] => true
  | value :: rest => isFinite value && areFinite rest

def fieldsAreFinite : List (String × Value) → Bool
  | [] => true
  | (_, value) :: rest => isFinite value && fieldsAreFinite rest

end

/-- The request that carries a payload to the chat service. -/
def slackRequest (token endpoint payload : Value) : Except Failure Http.Outgoing :=
  match endpoint with
  | .str url =>
    Http.outgoing "POST" url
      [("Authorization", .str ("Bearer " ++ token.text)), ("Content-Type", .str "application/json")]
      (if isFinite payload then .ok []
        else .error (.value "Out of range float values are not JSON compliant"))
  | value =>
    .error (.type ("Invalid type for url.  Expected str or httpx.URL, got <class '"
      ++ value.kindName ++ "'>: " ++ value.literal))

def deliverToSlack (adapter : Adapter) (token defaultChannel endpoint : Value)
    (message : Message) : Errand Receipt :=
  let channel := either message.channel defaultChannel
  let refused (failure : Failure) : Errand Receipt :=
    if isExpected failure then
      .done (.ok (adapter.failed (slackError failure.message) channel))
    else .done (.error failure)
  if !channel.truthy then
    .done (.ok (adapter.failed "Slack adapter requires a channel" .null))
  else
    match slackPayload message channel with
    | .error failure => .done (.error failure)
    | .ok payload =>
      match slackRequest token endpoint payload with
      | .error failure => refused failure
      | .ok request =>
        .ask (.post adapter.number request payload)
          fun (answer : Except Failure Http.Response) =>
            match answer.bind slackVerdict with
            | .error failure => refused failure
            | .ok (some error) => .done (.ok (adapter.failed (slackError error) channel))
            | .ok none => adapter.delivered channel "Slack message sent"

/-- One errand after the other; a failure ends both. -/
def thenDo {α β : Type} (first : Errand α) (second : α → Errand β) : Errand β :=
  first.bind fun
    | .ok value => second value
    | .error failure => .done (.error failure)

/-- A question that may be answered by a failure. -/
def request (call : Call) (same : call.Reply = Except Failure Unit) : Errand Unit :=
  .ask call fun answer => .done (cast same answer)

/-- An errand that is done only where it is asked for. -/
def doIf (wanted : Bool) (errand : Errand Unit) : Errand Unit :=
  if wanted then errand else .done (.ok ())

/-- Sends a mail through a server; the server is left in any case once it was reached. The headers
are written when the server is ready to take them. -/
def sendBySmtp (config : MailConfig) (mail : Mail) : Errand Unit :=
  match mail.content with
  | .error failure => .done (.error failure)
  | .ok body =>
    thenDo (request (.connect config.host config.port) rfl) fun () =>
      let session : Errand Unit :=
        thenDo (doIf config.secure.truthy (request .secure rfl)) fun () =>
          thenDo (doIf (config.user.truthy && config.password.truthy)
              (request (.login config.user config.password) rfl)) fun () =>
            match mail.text body with
            | .error failure => .done (.error failure)
            | .ok text => request (.sendMail mail.sender mail.recipient text) rfl
      session.bind fun outcome => .ask .quit fun _ => .done outcome

/-- Writes a mail at the end of the file of sent mails. -/
def sendByFile (config : MailConfig) (mail : Mail) (adapter : Adapter) : Errand Unit :=
  match mail.outboxEntry adapter.name.text with
  | .error failure => .done (.error failure)
  | .ok entry => request (.append config.outbox entry) rfl

/-- A failure that the mail adapter expects. -/
def isMailFault : Failure → Bool
  | .foreign (.system _) _ | .foreign .smtp _ => true
  | _ => false

def deliverByMail (adapter : Adapter) (config : MailConfig) (message : Message) :
    Errand Receipt :=
  if !message.recipient.truthy then
    .done (.ok (adapter.failed "Email adapter requires \"to\"" .null))
  else
    let mail : Mail := {
      sender := config.sender
      recipient := message.recipient
      subject := either message.subject (.str "Notification")
      body := either message.body (.str "") }
    let (errand, note) :=
      if config.host.truthy then (sendBySmtp config mail, "Email sent")
      else
        (sendByFile config mail adapter, "Email written to " ++ config.outbox)
    errand.bind fun
      | .ok () => adapter.delivered message.recipient note
      | .error failure =>
        if isMailFault failure then
          .done (.ok (adapter.failed failure.message message.recipient))
        else .done (.error failure)

/-- Delivers a message whose templates are filled in. -/
def deliver (adapter : Adapter) (message : Message) : Errand Receipt :=
  match adapter.channel with
  | .console => adapter.deliverToConsole message
  | .webhook url headers => adapter.deliverToWebhook url headers message
  | .slack token defaultChannel endpoint =>
    adapter.deliverToSlack token defaultChannel endpoint message
  | .email config => adapter.deliverByMail config message

end Adapter

end Orchestra.Notification
