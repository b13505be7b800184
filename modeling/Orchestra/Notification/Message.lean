import Orchestra.Failure
import Orchestra.Template

/-!
Messages for notification channels, and the templates that they are made from.

A placeholder of a template holds one dotted path of word characters, with white space around it. It
is replaced by the value at that path in the parameters, and by nothing when the value is missing or
null.

A message names the adapter that delivers it, or leaves the choice open. Its parts are values, since
messages also come as plain data from outside.
-/

namespace Orchestra

namespace Notification

def isPathChar (c : Char) : Bool :=
  Text.isWord c || c == '.'

/-- A placeholder at the start of a text: its path and what follows it. -/
def placeholder? : List Char → Option (List Char × List Char)
  | '{' :: '{' :: rest =>
    let body := rest.dropWhile Text.isBlank
    match body.takeWhile isPathChar, (body.dropWhile isPathChar).dropWhile Text.isBlank with
    | c :: path, '}' :: '}' :: tail => some (c :: path, tail)
    | _, _ => none
  | _ => none

/-- The text of a parameter. -/
def parameterText (value : Value) : String :=
  match value with
  | .null => ""
  | value => value.interpolated

/-- A text with its placeholders replaced; `length` bounds what is left to look at. -/
def renderChars (parameters : Value) (length : Nat) (cs : List Char) : List Char :=
  match length with
  | 0 => []
  | length + 1 =>
    match placeholder? cs with
    | some (path, tail) =>
      (parameterText (parameters.lookupD (String.ofList path) .null)).toList
        ++ renderChars parameters length tail
    | none =>
      match cs with
      | [] => []
      | c :: rest => c :: renderChars parameters length rest

/-- A template filled with parameters. -/
def render (template : String) (parameters : Value) : String :=
  String.ofList (renderChars parameters template.length template.toList)

end Notification

structure Message where
  adapter : Value := .null
  channel : Value := .null
  recipient : Value := .null
  subject : Value := .null
  body : Value := .null
  template : Value := .null
  params : Value := .obj []
  metadata : Value := .obj []
  /-- What stands in place of the time of its making, where it came with one. -/
  created : Option Value := none

namespace Message

/-- The names of the parts. -/
def partNames : List String :=
  ["adapter", "channel", "to", "subject", "body", "template", "params", "metadata", "created_at"]

/-- The message that named parts describe; a part with another name is refused. -/
def ofFields (fields : Fields) : Except Failure Message :=
  match fields.keys.find? fun name => !partNames.contains name with
  | some name =>
    .error (.type ("NotificationMessage.__init__() got an unexpected keyword argument '"
      ++ name ++ "'"))
  | none =>
    let part (name : String) (default : Value) := fields.valueD name default
    .ok {
      adapter := part "adapter" .null
      channel := part "channel" .null
      recipient := part "to" .null
      subject := part "subject" .null
      body := part "body" .null
      template := part "template" .null
      params := part "params" (.obj [])
      metadata := part "metadata" (.obj [])
      created := fields.get? "created_at" }

def toFields (message : Message) : Fields :=
  [("adapter", message.adapter), ("channel", message.channel), ("to", message.recipient),
    ("subject", message.subject), ("body", message.body), ("template", message.template),
    ("params", message.params), ("metadata", message.metadata)]

/-- A value, or an empty object in place of an empty one. -/
def parameters (message : Message) : Value :=
  if message.params.truthy then message.params else .obj []

/-- A template filled with parameters; nothing but a text can be filled. -/
def filledWith (parameters : Value) : Value → Except Failure Value
  | .str text => .ok (.str (Notification.render text parameters))
  | other =>
    .error (.type ("expected string or bytes-like object, got '" ++ other.kindName ++ "'"))

/-- A text filled with the parameters of the message. -/
def filled (message : Message) (template : Value) : Except Failure Value :=
  filledWith message.parameters template

/-- The message with its parameters filled into the subject, and with its template in place of a
missing body. -/
def rendered (message : Message) : Except Failure Message := do
  let body ←
    if !message.body.truthy && message.template.truthy then message.filled message.template
    else .ok message.body
  let subject ←
    if message.subject.truthy then message.filled message.subject else .ok message.subject
  return { message with body, subject }

end Message

end Orchestra
