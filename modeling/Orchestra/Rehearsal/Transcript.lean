import Orchestra.Rehearsal.Listening

/-!
The transcript of a rehearsal as plain data.

A call is a list that starts with its name. A request is shown with its headers in order, except for
those that every request has.
-/

namespace Orchestra.Rehearsal

namespace Entry

/-- A call of a run to a collaborator. -/
def askedParts : Execution.Call → List Value
  | .find entity selector => [.str "find", .obj [("entity", .str entity), ("where", selector)]]
  | .read entity id => [.str "find_by_id", .str entity, .str id]
  | .create entity data => [.str "create", .str entity, data]
  | .update entity id data => [.str "update", .str entity, .str id, data]
  | .delete entity id => [.str "delete", .str entity, .str id]
  | .report news =>
    [.str "event", .str news.entity, .str news.event.name, news.before, news.after,
      news.sourceWorkflow, news.depth]
  | .mail recipient subject body template =>
    [.str "email", .str recipient, .str subject, .str body, .ofString? template]
  | .fetch url method headers body => [.str "http", .str url, .str method, headers, body]
  | .notify message => [.str "notify", .obj message.toFields]
  | .act plugin action params => [.str "plugin", .str plugin, .str action, params]
  | .wait seconds => [.str "wait", .float seconds]

/-- A call of the mail adapter. -/
def mailedParts : Notification.Call → List Value
  | .connect host port => [.str "smtp", host, port]
  | .secure => [.str "starttls"]
  | .login user password => [.str "login", user, password]
  | .sendMail sender recipient text => [.str "sendmail", sender, .list [recipient], .str text]
  | _ => [.str "quit"]

/-- The headers that every request has. -/
def commonHeaders : List String :=
  ["accept", "accept-encoding", "connection", "host", "content-length"]

/-- The headers with names in lower case and in order, except for some. -/
def shownHeaders (hidden : List String) (headers : List (String × String)) : Value :=
  let shown := (headers.map fun (name, value) => (Text.lower name, value)).filter fun entry =>
    !hidden.contains entry.1
  let sorted := shown.mergeSort fun a b => decide (a.1 < b.1 ∨ (a.1 = b.1 ∧ a.2 ≤ b.2))
  .list (sorted.map fun (name, value) => .list [.str name, .str value])

/-- A request as it was sent. -/
def sentFields (method url : String) (headers body : Value) (time : Float) : Fields :=
  [("method", .str method), ("url", .str url), ("headers", headers), ("body", body),
    ("t_us", .int (microsecondsAt time))]

def toValue : Entry → Value
  | .asked call => .list (askedParts call)
  | .mailed call => .list (mailedParts call)
  | .fetched url method headers body => .list [.str "http", url, .str method, headers, body]
  | .sent request time =>
    .obj (sentFields request.method request.url (shownHeaders commonHeaders request.headers)
      (.str (String.ofList (Text.utf8 request.body))) time)
  | .posted url headers payload time =>
    .obj (sentFields "POST" url (shownHeaders ("user-agent" :: commonHeaders) headers) payload time)

end Entry

namespace Heard

/-- The state of a job as a listener tells it. -/
def jobParts (job : Job) : List Value :=
  [.int job.id, .str job.status.name, .int job.attempts]

/-- What an event is about. -/
def summary : Event → Value
  | .registered workflow | .unregistered workflow => .str workflow.name
  | .cleaned count => .int count
  | .execute job workflow => .list (jobParts job ++ [.str workflow.name])
  | .enqueued job | .started job | .completed job | .failed job | .cancelled job | .retried job
  | .readmitted job => .list (jobParts job)

def toValue (heard : Heard) : Value :=
  .list [.str heard.listener, .str heard.event.topic.name, summary heard.event]

end Heard

end Orchestra.Rehearsal
