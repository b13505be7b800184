import Orchestra.Http.Target

/-!
Requests and responses as they go over the network.
-/

namespace Orchestra.Http

/-- The content of a request: bytes as they are, or a value that is sent as text. -/
inductive Body where
  | bytes (content : List UInt8)
  | value (content : Value)

def Body.isNull : Body → Bool
  | .value .null => true
  | _ => false

def utf8Bytes (s : String) : List UInt8 :=
  s.toUTF8.toList

/-- A request as it is sent. -/
structure Outgoing where
  method : String
  target : Target
  /-- The host in the letters of its own script. -/
  host : String
  headers : List (String × String)
  body : List UInt8

/-- The text of the URL that a request is sent to. -/
def Outgoing.url (request : Outgoing) : String :=
  request.target.text

structure Response where
  status : Int
  reason : String
  headers : List (String × String)
  /-- The body in the pieces that it arrives in. -/
  chunks : List (List UInt8)
  /-- The pieces are free of the codings that the headers name. -/
  plain : Bool := false

namespace Response

/-- The request was served. -/
def isSuccess (response : Response) : Bool :=
  200 ≤ response.status && response.status ≤ 299

/-- The value of a header, whatever the case of its name; several are joined by commas. -/
def header? (response : Response) (name : String) : Option String :=
  match response.headers.filter fun entry => Text.lower entry.1 == name with
  | [] => none
  | entries => some (", ".intercalate (entries.map Prod.snd))

/-- The parts of a header between commas; several headers of the name count as one. -/
def headerParts (response : Response) (name : String) : List String :=
  match response.header? name with
  | some value => value.splitOn ","
  | none => []

end Response

/-- The phrases of the status codes. -/
def phrases : List (Int × String) :=
  [(100, "Continue"), (101, "Switching Protocols"), (102, "Processing"), (103, "Early Hints"),
    (200, "OK"), (201, "Created"), (202, "Accepted"), (203, "Non-Authoritative Information"),
    (204, "No Content"), (205, "Reset Content"), (206, "Partial Content"), (207, "Multi-Status"),
    (208, "Already Reported"), (226, "IM Used"), (300, "Multiple Choices"),
    (301, "Moved Permanently"), (302, "Found"), (303, "See Other"), (304, "Not Modified"),
    (305, "Use Proxy"), (307, "Temporary Redirect"), (308, "Permanent Redirect"),
    (400, "Bad Request"), (401, "Unauthorized"), (402, "Payment Required"), (403, "Forbidden"),
    (404, "Not Found"), (405, "Method Not Allowed"), (406, "Not Acceptable"),
    (407, "Proxy Authentication Required"), (408, "Request Timeout"), (409, "Conflict"),
    (410, "Gone"), (411, "Length Required"), (412, "Precondition Failed"),
    (413, "Request Entity Too Large"), (414, "Request-URI Too Long"),
    (415, "Unsupported Media Type"), (416, "Requested Range Not Satisfiable"),
    (417, "Expectation Failed"), (418, "I'm a teapot"), (421, "Misdirected Request"),
    (422, "Unprocessable Entity"), (423, "Locked"), (424, "Failed Dependency"),
    (425, "Too Early"), (426, "Upgrade Required"), (428, "Precondition Required"),
    (429, "Too Many Requests"), (431, "Request Header Fields Too Large"),
    (451, "Unavailable For Legal Reasons"), (500, "Internal Server Error"),
    (501, "Not Implemented"), (502, "Bad Gateway"), (503, "Service Unavailable"),
    (504, "Gateway Timeout"), (505, "HTTP Version Not Supported"),
    (506, "Variant Also Negotiates"), (507, "Insufficient Storage"), (508, "Loop Detected"),
    (510, "Not Extended"), (511, "Network Authentication Required")]

/-- The phrase of a status code, empty for an unknown one. -/
def phrase (status : Int) : String :=
  (phrases.lookup status).getD ""

end Orchestra.Http
