import Orchestra.FilePath
import Orchestra.Notification.Mail
import Orchestra.Notification.Message

/-!
Adapters: the ways in which messages are delivered.

An adapter is built from a set of named options. An option that the kind of adapter does not have,
or a value that it cannot work with, is refused.
-/

namespace Orchestra.Notification

/-- How an adapter delivers. -/
inductive Channel where
  /-- Into the log of the process. -/
  | console
  /-- To an HTTP endpoint. -/
  | webhook (url headers : Value)
  /-- To a chat channel. -/
  | slack (token defaultChannel endpoint : Value)
  | email (mail : MailConfig)

namespace Channel

/-- The kind of adapter. -/
def kindName : Channel → String
  | .console => "console"
  | .webhook .. => "webhook"
  | .slack .. => "slack"
  | .email _ => "email"

/-- Where chat messages are posted unless an endpoint is given. -/
def defaultEndpoint : String := "https://slack.com/api/chat.postMessage"

/-- The refusal of an option that is not known. -/
def unknownOption (adapter : String) (known : List String) (options : Fields) : Option Failure :=
  (options.keys.find? fun name => !known.contains name).map fun name =>
    .type (adapter ++ ".__init__() got an unexpected keyword argument '" ++ name ++ "'")

def option (options : Fields) (name : String) (default : Value) : Value :=
  options.valueD name default

/-- An adapter into the log; it has no options but its name. -/
def ofConsole (options : Fields) : Except Failure Channel :=
  match unknownOption "ConsoleAdapter" ["name"] options with
  | some failure => .error failure
  | none => .ok .console

/-- An adapter to chat channels, which needs a token. -/
def ofSlack (options : Fields) : Except Failure Channel :=
  match unknownOption "SlackAdapter"
      ["bot_token", "default_channel", "name", "api_url", "timeout", "transport"] options with
  | some failure => .error failure
  | none =>
    match options.get? "bot_token" with
    | none =>
      .error (.foreign .type
        "SlackAdapter.__init__() missing 1 required positional argument: 'bot_token'")
    | some token =>
      if token.truthy then
        .ok (.slack token (option options "default_channel" .null)
          (option options "api_url" (.str defaultEndpoint)))
      else .error (.value "Slack adapter requires bot_token")

/-- An adapter that sends mails; the file for sent mails is a name. -/
def ofEmail (options : Fields) : Except Failure Channel :=
  match unknownOption "EmailAdapter"
      ["from_address", "outbox_file", "smtp_host", "smtp_port", "smtp_user", "smtp_password",
        "use_tls", "name"] options with
  | some failure => .error failure
  | none =>
    match option options "outbox_file" (.str "./data/email-outbox.log") with
    | .str outbox =>
      .ok (.email {
        sender := option options "from_address" (.str "workflows@localhost")
        outbox := FilePath.normalized outbox
        host := option options "smtp_host" .null
        port := option options "smtp_port" (.int 587)
        user := option options "smtp_user" (.str "")
        password := option options "smtp_password" (.str "")
        secure := option options "use_tls" (.bool true) })
    | value =>
      .error (.type ("expected str, bytes or os.PathLike object, not " ++ value.kindName))

/-- An adapter to an HTTP endpoint; options of other names do not matter. -/
def ofWebhook (hasClient : Bool) (options : Fields) : Except Failure Channel :=
  if hasClient then .ok (.webhook (option options "url" .null) (option options "headers" .null))
  else .error (.value "Webhook adapter requires an HTTP client")

/-- A failure that tells that options do not fit an adapter: one of types or of values. -/
def isMisfit : Failure → Bool
  | .foreign kind _ =>
    match kind with
    | .type | .value | .encoding | .unicode | .domain _ => true
    | _ => false
  | .invalidData .. => true
  | _ => false

/-- The adapter of a kind and a configuration; none for an unknown kind. -/
def ofConfig? (kind : String) (config : Fields) (hasClient : Bool) :
    Option (Except Failure Channel) :=
  let unnamed (build : Fields → Except Failure Channel) : Except Failure Channel :=
    if config.has "name" then .error (.type "got multiple values for argument 'name'")
    else build config
  match kind with
  | "console" => some (.ok .console)
  | "slack" => some (unnamed ofSlack)
  | "email" => some (unnamed ofEmail)
  | "webhook" => some (ofWebhook hasClient config)
  | _ => none

end Channel

/-- An adapter: its number among all that were built, the name it signs with, and its channel. -/
structure Adapter where
  number : Nat
  name : Value
  channel : Channel

end Orchestra.Notification
