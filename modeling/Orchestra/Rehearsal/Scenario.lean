import Orchestra.Failure.Reader
import Orchestra.Rehearsal.Session

/-!
Scenarios: the world of a rehearsal from a description in plain data.

A service that is not described has everything at its default; one that is described by null is
missing.
-/

namespace Orchestra.Rehearsal

/-- Fields of a scenario. -/
abbrev Scenario := Fields

namespace Scenario

def part (scenario : Scenario) (name : String) : Value :=
  Fields.valueD scenario name .null

def has (scenario : Scenario) (name : String) : Bool :=
  Fields.has scenario name

def ofValue : Value → Scenario
  | .obj fields => fields
  | _ => []

def items (scenario : Scenario) (name : String) : List Value :=
  match scenario.part name with
  | .list items => items
  | _ => []

/-- A description within a description. -/
def inner (scenario : Scenario) (name : String) : Scenario :=
  ofValue (scenario.part name)

/-- A number of seconds, none where there is no number. -/
def seconds (scenario : Scenario) (name : String) (default : Float) : Float :=
  ((scenario.part name).number?.map secondsOf).getD default

/-- The description of a service: nothing when it is null. -/
def service? (scenario : Scenario) (name : String) : Option Scenario :=
  if scenario.has name then
    match scenario.part name with
    | .null => none
    | value => some (ofValue value)
  else some []

end Scenario

/-- The octets that hexadecimal digits stand for; there may be blanks between octets. -/
def hexBytes : List Char → List UInt8
  | ' ' :: rest => hexBytes rest
  | high :: low :: rest =>
    match JobId.readHex 0 [high.toLower, low.toLower] with
    | some octet => UInt8.ofNat octet :: hexBytes rest
    | none => hexBytes rest
  | _ => []

/-- Scripts from data: one list for all names, or a list for each. -/
def Scripts.ofValue {α : Type} (read : Value → α) : Value → Scripts α
  | .list items => [(Scripts.others, items.map read)]
  | .obj fields => fields.map fun (name, value) =>
    match value with
    | .list items => (name, items.map read)
    | _ => (name, [])
  | _ => []

/-- Headers by name, or as pairs of a name and a value. -/
def headersOf : Value → Fields
  | .obj fields => fields
  | .list pairs =>
    pairs.filterMap fun
      | .list [.str name, value] => some (name, value)
      | _ => none
  | _ => []

/-- The response that a description of a reply stands for. -/
def Reply.response (scenario : Scenario) : Except Failure Http.Response := do
  let status := ((Fields.get? scenario "status").bind Value.whole?).getD 200
  let reason := (scenario.part "reason").str?
  let headers ← Http.sentHeaders (headersOf (scenario.part "headers"))
  if scenario.has "chunks" then
    return Reply.streamed status reason headers
      ((scenario.items "chunks").map fun chunk => Http.utf8Bytes chunk.text)
  else
    Reply.whole status reason headers
      (if scenario.has "hex" then hexBytes (scenario.part "hex").text.toList
        else Http.utf8Bytes (((scenario.part "body").str?).getD ""))

/-- The reply of an endpoint. -/
def Reply.ofValue (value : Value) : Reply :=
  let scenario := Scenario.ofValue value
  { seconds := scenario.seconds "delay_s" 0.0
    answer :=
      if scenario.has "error" then .error (Failure.asked scenario) else Reply.response scenario }

/-- The network and its client. -/
def Web.ofValues (config script names : Value) : Web :=
  .ofConfig (.ofFields (Scenario.ofValue config)) (Scripts.ofValue Reply.ofValue script)
    ((Scenario.ofValue names).map fun (name, value) =>
      match value with
      | .list addresses => (name, .ok addresses)
      | value => (name, .error value.text))

def Retort.ofValue (value : Value) : Retort :=
  let scenario := Scenario.ofValue value
  if scenario.has "error" then { outcome := .error (Failure.asked scenario) }
  else
    { seconds := Actions.secondsOfMilliseconds (scenario.part "delay_ms")
      outcome := .ok (scenario.part "return") }

def Recorder.ofScenario (scenario : Scenario) : Recorder :=
  ⟨Failure.asked? (scenario.part "fail")⟩

def Store.ofScenario (scenario : Scenario) : Store :=
  { records := .ofEntities ((scenario.inner "records").map fun (entity, value) =>
      match value with
      | .list records => (entity, records.map Scenario.ofValue)
      | _ => (entity, []))
    faults := (scenario.inner "fail").filterMap fun (name, value) =>
      (Failure.asked? value).map fun failure => (name, failure) }

/-- The text of an error: none for null, the wording of a failure that is described. -/
def errorText? : Value → Except Failure (Option String)
  | .null => .ok none
  | .obj fields => (Failure.ofFields fields).map fun failure => some failure.message
  | value => .ok (some value.text)

def Plan.ofValue (value : Value) : Plan :=
  let scenario := Scenario.ofValue value
  { seconds := Actions.secondsOfMilliseconds (scenario.part "delay_ms")
    outcome :=
      if scenario.has "raise" then .error (some (scenario.part "raise").text)
      else if scenario.has "fail" then
        match errorText? (scenario.part "fail") with
        | .ok text => .error text
        | .error failure => .error (some failure.message)
      else .ok (scenario.part "ok") }

namespace World

/-- With an HTTP client for the team: none, a scripted one, or the real one. -/
def withFetcher (world : World) (service : Option Scenario) : World :=
  match service with
  | none => world
  | some scenario =>
    if scenario.has "client" then
      { world with
        web := .ofValues (scenario.part "client") (scenario.part "script") .null
        team := { world.team with fetcher := .client } }
    else
      { world with
        team := { world.team with
          fetcher := .scripted ((scenario.items "replies").map Retort.ofValue) } }

/-- The replies of the chat service. -/
def chatOf (scenario : Scenario) : List Reply :=
  if scenario.has "slack" then (scenario.items "slack").map Reply.ofValue else Post.acceptAll

/-- With notifications for the team: none, noted ones, or a real manager of them. -/
def withNotifier (world : World) (service : Option Scenario) : Except Failure World :=
  match service with
  | none => return world
  | some scenario =>
    if scenario.has "config" then do
      let manager ← Notification.Manager.ofData world.team.fetcher.isPresent (scenario.part "config")
      return { world with
        post := { world.post with manager, chat := chatOf scenario }
        team := { world.team with notifier := .managed } }
    else
      return { world with
        team := { world.team with notifier := .recorded (.ofScenario scenario) } }

/-- The world around runs, from the description of its services. -/
def ofServices (services : Scenario) : Except Failure World :=
  let world : World := {
    team := {
      data := (services.service? "data").map Store.ofScenario
      mail := (services.service? "email").map Recorder.ofScenario
      sink := match services.service? "events" with
        | some scenario => .recorded (.ofScenario scenario)
        | none => .absent
      plugins := (services.service? "plugins").isSome } }
  (world.withFetcher (services.service? "http")).withNotifier (services.service? "notify")

/-- The manager of notifications that a description asks for. -/
def managerOf (scenario : Scenario) (hasClient : Bool) : Except Failure Notification.Manager :=
  if scenario.has "config" then
    Notification.Manager.ofData hasClient (scenario.part "config")
  else if scenario.has "with_defaults" then
    Notification.Manager.withDefaults hasClient ((scenario.inner "with_defaults").part "webhook_url")
  else
    match scenario.items "args" with
    | name :: _ => .ok { default := name }
    | [] => .ok {}

def mailFaultOf (value : Value) : Option MailFault :=
  match value with
  | .list [.str "connect", reason] => some (.unreachable reason.text)
  | .list [.str "login", reason] => some (.badLogin reason.text)
  | _ => none

/-- The world around a manager of notifications; without a description there is no HTTP client. -/
def ofNotifications (scenario : Scenario) : Except Failure World := do
  let world := withFetcher {}
    (if scenario.has "http" then scenario.service? "http" else none)
  let manager ← managerOf scenario world.team.fetcher.isPresent
  return { world with
    post := {
      manager
      chat := chatOf scenario
      mailFault := mailFaultOf (scenario.part "smtp_fail") } }

/-- A world with a queue that is described by settings. -/
def withQueue (world : World) (settings : Fields) : Except Failure World := do
  let config ← QueueConfig.ofFields settings
  return { world with
    queue := { config }
    limitFault := QueueConfig.orderFault? settings "max_concurrent"
    budgetFault := QueueConfig.orderFault? settings "max_retries" }

/-- The world of a queue, whose events may be noted by a listener to all topics. -/
def ofQueue (settings : Fields) (scenario : Scenario) : Except Failure World := do
  let flag (name : String) : Bool := !scenario.has name || (scenario.part name).truthy
  let world ← World.withQueue {} settings
  return { world with
    runner := match scenario.part "runner" with
      | .null => .outside
      | plans => .scripted (Scripts.ofValue Plan.ofValue plans)
    timed := flag "loop"
    audience :=
      if flag "record" then
        Topic.all.foldl (fun audience topic => audience.bind topic "rec")
          (({} : Audience).introduce "rec" {})
      else {} }

/-- The world of a manager of workflows. -/
def ofManager (settings : Fields) (maxDepth : Value) (services : Scenario) :
    Except Failure World := do
  let world ← (← ofServices services).withQueue settings
  return { world with
    runner := .workflows
    team := { world.team with sink := .routed maxDepth } }

end World

end Orchestra.Rehearsal
