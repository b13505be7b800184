import Orchestra.Notification.MailHeader
import Orchestra.Failure

/-!
Mails: where they go, and what they look like on the way.
-/

namespace Orchestra.Notification

/-- How mails are sent: to a mail server, or into a file when there is no server. -/
structure MailConfig where
  sender : Value := .str "workflows@localhost"
  outbox : String := "data/email-outbox.log"
  host : Value := .null
  port : Value := .int 587
  user : Value := .str ""
  password : Value := .str ""
  secure : Value := .bool true

structure Mail where
  sender : Value
  recipient : Value
  subject : Value
  body : Value

namespace Mail

/-- Letters in lines of seventy-six; `limit` bounds their number. -/
def letterLines : Nat → List Char → List Char
  | 0, _ => []
  | limit + 1, letters =>
    if letters.isEmpty then []
    else letters.take 76 ++ '\n' :: letterLines limit (letters.drop 76)

/-- The body of a mail in letters that every server passes on. -/
def encodedBody (body : String) : String :=
  let letters := Text.base64 body.toUTF8.toList
  String.ofList (letterLines (letters.length + 1) letters)

/-- A value that has no characters to send. -/
def notText (value : Value) : Failure :=
  .foreign .attribute ("'" ++ value.kindName ++ "' object has no attribute 'encode'")

/-- The failure of a header that cannot be written. -/
def headerFailure : MailHeader.HeaderFault → Failure
  | .embedded value =>
    .foreign .header
      ("header value appears to contain an embedded header: " ++ Value.quoted value)
  | .broken header =>
    .foreign .brokenHeader ("folded header contains newline: " ++ Value.quoted header)

def header (name : String) : Value → Except Failure String
  | .str value =>
    match MailHeader.render name value with
    | .ok text => .ok text
    | .error fault => .error (headerFailure fault)
  | value => .error (notText value)

/-- The body of a mail as it is sent; only a text can be one. -/
def content (mail : Mail) : Except Failure String :=
  match mail.body with
  | .str body => .ok (encodedBody body)
  | value => .error (notText value)

/-- The text of a mail as it is sent with a body that is ready. -/
def text (mail : Mail) (body : String) : Except Failure String := do
  let subject ← header "Subject" mail.subject
  let sender ← header "From" mail.sender
  let recipient ← header "To" mail.recipient
  return "Content-Type: text/plain; charset=\"utf-8\"\nMIME-Version: 1.0\n"
    ++ "Content-Transfer-Encoding: base64\n" ++ subject ++ sender ++ recipient ++ "\n" ++ body

/-- The entry of a mail in the file of sent mails; the body has to be a text. -/
def outboxEntry (mail : Mail) (adapter : String) : Except Failure String :=
  match mail.body with
  | .str body =>
    .ok ("\n".intercalate ["=== Email via " ++ adapter ++ " ===", "From: " ++ mail.sender.text,
      "To: " ++ mail.recipient.text, "Subject: " ++ mail.subject.text, "", body, "\n"])
  | value =>
    .error (.foreign .type
      ("sequence item 5: expected str instance, " ++ value.kindName ++ " found"))

end Mail

end Orchestra.Notification
