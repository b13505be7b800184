import Orchestra.Decimal.Significant
import Orchestra.Domain.Name
import Orchestra.Validation
import Orchestra.Value.Arithmetic
import Orchestra.Value.Text

/-!
Everything that can go wrong, as causes, and the wording of each cause.

The engine raises failures of its own; collaborators bring theirs, of which the engine only knows
the kind and the wording. What a failure tells about itself is a value, since failures are also
described by plain data.
-/

namespace Orchestra

/-- The kinds of faults of the network layer below the HTTP client. -/
inductive NetworkFault where
  | connectTimeout
  | readTimeout
  | writeTimeout
  | poolTimeout
  | timeout
  | connect
  | read
  | write
  | close
  | network
  | localProtocol
  | remoteProtocol
  | protocol
  | proxy
  | unsupportedProtocol
  | transport
  | decoding
  | tooManyRedirects
  | request
  | http
deriving DecidableEq, Repr

namespace NetworkFault

def name : NetworkFault → String
  | .connectTimeout => "ConnectTimeout"
  | .readTimeout => "ReadTimeout"
  | .writeTimeout => "WriteTimeout"
  | .poolTimeout => "PoolTimeout"
  | .timeout => "TimeoutException"
  | .connect => "ConnectError"
  | .read => "ReadError"
  | .write => "WriteError"
  | .close => "CloseError"
  | .network => "NetworkError"
  | .localProtocol => "LocalProtocolError"
  | .remoteProtocol => "RemoteProtocolError"
  | .protocol => "ProtocolError"
  | .proxy => "ProxyError"
  | .unsupportedProtocol => "UnsupportedProtocol"
  | .transport => "TransportError"
  | .decoding => "DecodingError"
  | .tooManyRedirects => "TooManyRedirects"
  | .request => "RequestError"
  | .http => "HTTPError"

/-- The wider kind that a kind belongs to. -/
def wider? : NetworkFault → Option NetworkFault
  | .connectTimeout | .readTimeout | .writeTimeout | .poolTimeout => some .timeout
  | .connect | .read | .write | .close => some .network
  | .localProtocol | .remoteProtocol => some .protocol
  | .timeout | .network | .protocol | .proxy | .unsupportedProtocol => some .transport
  | .transport | .decoding | .tooManyRedirects => some .request
  | .request => some .http
  | .http => none

/-- All faults of the network layer. -/
def kinds : List NetworkFault :=
  [.connectTimeout, .readTimeout, .writeTimeout, .poolTimeout, .timeout, .connect, .read, .write,
    .close, .network, .localProtocol, .remoteProtocol, .protocol, .proxy, .unsupportedProtocol,
    .transport, .decoding, .tooManyRedirects, .request, .http]

def ofName? (name : String) : Option NetworkFault :=
  kinds.find? fun fault => fault.name == name

/-- The fault is a time limit that ran out. -/
def isTimeout : NetworkFault → Bool
  | .connectTimeout | .readTimeout | .writeTimeout | .poolTimeout | .timeout => true
  | _ => false

/-- The fault is one of moving bytes; the others concern the answer as a whole. -/
def isTransport : NetworkFault → Bool
  | .decoding | .tooManyRedirects | .request | .http => false
  | _ => true

end NetworkFault

/-- The kinds of misuse of a body that is read as it arrives. -/
inductive StreamFault where
  | other
  | consumed
  | closed
  | responseUnread
  | requestUnread
deriving DecidableEq, Repr

namespace StreamFault

def name : StreamFault → String
  | .other => "StreamError"
  | .consumed => "StreamConsumed"
  | .closed => "StreamClosed"
  | .responseUnread => "ResponseNotRead"
  | .requestUnread => "RequestNotRead"

/-- The wording of a kind that has one of its own. -/
def wording : StreamFault → String
  | .other => ""
  | .consumed =>
    "Attempted to read or stream some content, but the content has already been streamed. For "
      ++ "requests, this could be due to passing a generator as request content, and then "
      ++ "receiving a redirect response or a secondary request as part of an authentication flow."
      ++ "For responses, this could be due to attempting to stream the response content more than "
      ++ "once."
  | .closed => "Attempted to read or stream content, but the stream has been closed."
  | .responseUnread =>
    "Attempted to access streaming response content, without having called \x60read()\x60."
  | .requestUnread =>
    "Attempted to access streaming request content, without having called \x60read()\x60."

/-- The kinds whose wording is fixed. -/
def worded : List StreamFault :=
  [.consumed, .closed, .responseUnread, .requestUnread]

end StreamFault

/-- The kinds of faults of the operating system. -/
inductive SystemFault where
  | other
  | permission
  | missing
  | interrupted
  | noProcess
  | noChild
  | blocking
  | exists
  | notFolder
  | isFolder
  | brokenPipe
  | connectionAborted
  | connectionReset
  | connectionRefused
  | timeout
deriving DecidableEq, Repr

namespace SystemFault

def name : SystemFault → String
  | .other => "OSError"
  | .permission => "PermissionError"
  | .missing => "FileNotFoundError"
  | .interrupted => "InterruptedError"
  | .noProcess => "ProcessLookupError"
  | .noChild => "ChildProcessError"
  | .blocking => "BlockingIOError"
  | .exists => "FileExistsError"
  | .notFolder => "NotADirectoryError"
  | .isFolder => "IsADirectoryError"
  | .brokenPipe => "BrokenPipeError"
  | .connectionAborted => "ConnectionAbortedError"
  | .connectionReset => "ConnectionResetError"
  | .connectionRefused => "ConnectionRefusedError"
  | .timeout => "TimeoutError"

/-- The kind that an error number of the system stands for. -/
def ofNumber (number : Int) : SystemFault :=
  match number with
  | 1 | 13 => .permission
  | 2 => .missing
  | 3 => .noProcess
  | 4 => .interrupted
  | 10 => .noChild
  | 11 | 114 | 115 => .blocking
  | 17 => .exists
  | 20 => .notFolder
  | 21 => .isFolder
  | 32 | 108 => .brokenPipe
  | 103 => .connectionAborted
  | 104 => .connectionReset
  | 110 => .timeout
  | 111 => .connectionRefused
  | _ => .other

/-- The fault is one of a connection. -/
def isConnection : SystemFault → Bool
  | .brokenPipe | .connectionAborted | .connectionReset | .connectionRefused => true
  | _ => false

end SystemFault

/-- The kinds of failures that come from outside the engine. -/
inductive ForeignKind where
  | runtime
  | recursion
  | assertion
  | value
  | unicode
  | encoding
  | type
  | key
  | index
  | attribute
  | overflow
  | lookup
  | system (fault : SystemFault)
  | smtp
  | header
  | brokenHeader
  | url
  | cookie
  | stream (fault : StreamFault)
  | domain (fault : Domain.Fault)
  | network (fault : NetworkFault)
deriving DecidableEq, Repr

def ForeignKind.name : ForeignKind → String
  | .runtime => "RuntimeError"
  | .recursion => "RecursionError"
  | .assertion => "AssertionError"
  | .value => "ValueError"
  | .unicode => "UnicodeError"
  | .encoding => "UnicodeEncodeError"
  | .type => "TypeError"
  | .key => "KeyError"
  | .index => "IndexError"
  | .attribute => "AttributeError"
  | .overflow => "OverflowError"
  | .lookup => "LookupError"
  | .system fault => fault.name
  | .header => "HeaderParseError"
  | .brokenHeader => "HeaderWriteError"
  | .url => "InvalidURL"
  | .cookie => "CookieConflict"
  | .stream fault => fault.name
  | .domain fault => fault.name
  | .smtp => "SMTPException"
  | .network fault => fault.name

/-- Why something failed. -/
inductive Failure where
  | engine (message : String)
  | definition (message : String)
  /-- A definition that cannot be read, with the name it gives itself. -/
  | invalidDefinition (name : String) (first : Fault) (rest : List Fault)
  | condition (message : String)
  | workflowNotFound (name : Value)
  | workflowDisabled (name : Value)
  | queueShutdown (message : String)
  | cascadeTooDeep (depth limit : Value)
  | stepInvalid (message : String)
  | serviceMissing (service : Value)
  | pluginNotFound (name : String)
  | actionNotFound (plugin action : String)
  | notification (message : String)
  | httpClient (message : String)
  | invalidUrl (message : String)
  | addressBlocked (host : Value)
  | payloadTooLarge (size limit : Value)
  | circuitOpen (host failures threshold retryAfter : Value)
  | requestTimeout (timeout : Value)
  | transport (message : String)
  | httpStatus (code reason : Value)
  /-- All attempts failed, the last one with a failure, or with what is told in its place. -/
  | retriesExhausted (attempts : Value) (last : Value ⊕ Failure)
  /-- Settings or a configuration that cannot be read. -/
  | invalidData (first : Fault) (rest : List Fault)
  | foreign (kind : ForeignKind) (message : String)

instance : Inhabited Failure := ⟨.engine ""⟩

namespace Failure

def runtime (message : String) : Failure :=
  .foreign .runtime message

def value (message : String) : Failure :=
  .foreign .value message

def type (message : String) : Failure :=
  .foreign .type message

/-- A fault of the operating system that is known by its text alone. -/
def system (message : String) : Failure :=
  .foreign (.system .other) message

/-- A key that is not there. -/
def missingKey (key : String) : Failure :=
  .foreign .key (Value.quoted key)

/-- Lists and objects are no keys. -/
def requireKey (value : Value) : Except Failure Unit :=
  match value with
  | .list _ | .obj _ => .error (type ("unhashable type: '" ++ value.kindName ++ "'"))
  | _ => .ok ()

/-- A value has no attribute of a name. -/
def noAttribute (value : Value) (name : String) : Failure :=
  .foreign .attribute ("'" ++ value.kindName ++ "' object has no attribute '" ++ name ++ "'")

def domain (fault : Domain.Fault) : Failure :=
  .foreign (.domain fault) fault.message

def outOfRange (error : RangeError) : Failure :=
  .foreign .overflow error.message

/-- An operation that cannot be done on its operands. -/
def operand (fault : OperandFault) : Failure :=
  match fault with
  | .range error => outOfRange error
  | .countless => .foreign .overflow fault.message
  | _ => .foreign .type fault.message

/-- A text with more digits than an integer may be written with. -/
def tooManyDigits (count : Nat) : Failure :=
  .value ("Exceeds the limit (4300 digits) for integer string conversion: value has "
    ++ String.ofList (Text.naturalText count)
    ++ " digits; use sys.set_int_max_str_digits() to increase the limit")

/-- An integer that would be written with too many digits. -/
def unwritable : Failure :=
  .value ("Exceeds the limit (4300 digits) for integer string conversion; "
    ++ "use sys.set_int_max_str_digits() to increase the limit")

/-- A text without the colons and spaces at its end. -/
def stripColons (s : String) : String :=
  String.ofList (s.toList.reverse.dropWhile (fun c => c == ':' || c == ' ')).reverse

/-- A number of seconds with one decimal place. -/
def seconds (amount : Value) : String :=
  match amount.number?.map Number.toFloat with
  | some (.ok x) => String.ofList (Decimal.Style.fixed.text false 1 x)
  | _ => amount.text

/-- The wording of a failure. -/
def message : Failure → String
  | .engine message => message
  | .definition message => message
  | .invalidDefinition name .. => "Invalid workflow '" ++ name ++ "'"
  | .condition message => message
  | .workflowNotFound name => "Workflow not found: " ++ name.text
  | .workflowDisabled name => "Workflow is disabled: " ++ name.text
  | .queueShutdown message => message
  | .cascadeTooDeep depth limit =>
    "Cascade depth " ++ depth.text ++ " exceeds maximum of " ++ limit.text
  | .stepInvalid message => message
  | .serviceMissing service => service.text ++ " not configured"
  | .pluginNotFound name => "Plugin not found: " ++ name
  | .actionNotFound plugin action => "Action not found: " ++ plugin ++ "." ++ action
  | .notification message => message
  | .httpClient message => message
  | .invalidUrl message => message
  | .addressBlocked host =>
    "Cannot make requests to private IP addresses or localhost: " ++ host.text
  | .payloadTooLarge size limit =>
    "Payload size (" ++ size.text ++ " bytes) exceeds maximum allowed size (" ++ limit.text
      ++ " bytes)"
  | .circuitOpen host failures threshold retryAfter =>
    "Circuit breaker open for " ++ host.text ++ ". Too many failures (" ++ failures.text ++ "/"
      ++ threshold.text ++ "). Will retry after " ++ seconds retryAfter ++ "s"
  | .requestTimeout timeout => "Request timeout after " ++ timeout.text ++ "s"
  | .transport message => message
  | .httpStatus code reason => stripColons ("HTTP " ++ code.text ++ ": " ++ reason.text)
  | .retriesExhausted attempts last =>
    "HTTP request failed after " ++ attempts.text ++ " attempts: "
      ++ (match last with
        | .inl value => value.text
        | .inr failure => failure.message)
  | .invalidData .. => ""
  | .foreign _ message => message

/-- The name of the kind of a failure. -/
def name : Failure → String
  | .engine _ => "WorkflowEngineError"
  | .definition _ => "WorkflowDefinitionError"
  | .invalidDefinition .. => "WorkflowDefinitionError"
  | .condition _ => "ConditionError"
  | .workflowNotFound _ => "WorkflowNotFoundError"
  | .workflowDisabled _ => "WorkflowDisabledError"
  | .queueShutdown _ => "QueueShutdownError"
  | .cascadeTooDeep .. => "CascadeDepthExceededError"
  | .stepInvalid _ => "StepValidationError"
  | .serviceMissing _ => "ServiceNotConfiguredError"
  | .pluginNotFound _ => "PluginNotFoundError"
  | .actionNotFound .. => "PluginActionNotFoundError"
  | .notification _ => "NotificationError"
  | .httpClient _ => "HttpClientError"
  | .invalidUrl _ => "InvalidUrlError"
  | .addressBlocked _ => "BlockedAddressError"
  | .payloadTooLarge .. => "PayloadTooLargeError"
  | .circuitOpen .. => "CircuitOpenError"
  | .requestTimeout _ => "RequestTimeoutError"
  | .transport _ => "TransportError"
  | .httpStatus .. => "HttpStatusError"
  | .retriesExhausted .. => "RetriesExhaustedError"
  | .invalidData .. => "ValidationError"
  | .foreign kind _ => kind.name

/-- A failure of the HTTP client. -/
def isHttp : Failure → Bool
  | .httpClient _ | .invalidUrl _ | .addressBlocked _ | .payloadTooLarge .. | .circuitOpen ..
  | .requestTimeout _ | .transport _ | .httpStatus .. | .retriesExhausted .. => true
  | _ => false

/-- Whether another attempt may help; failures of the HTTP client know, the others do not say. A
status that has no order with numbers leaves the question open. -/
def retryable : Failure → Except OperandFault (Option Bool)
  | .requestTimeout _ => .ok (some true)
  | .transport _ => .ok (some true)
  | .httpStatus code _ => (code.atLeast (.int 500)).map some
  | failure => .ok (if failure.isHttp then some false else none)

/-- The names of the kinds that a foreign kind belongs to, the narrowest first. -/
def foreignKinds : ForeignKind → List String
  | .system .other => [SystemFault.other.name]
  | .system fault =>
    fault.name :: (if fault.isConnection then ["ConnectionError"] else []) ++ [SystemFault.other.name]
  | .network fault => (networkKinds 5 fault).map NetworkFault.name
  | .stream .other => [StreamFault.other.name, ForeignKind.runtime.name]
  | .stream fault => [fault.name, StreamFault.other.name, ForeignKind.runtime.name]
  | .key => [ForeignKind.key.name, ForeignKind.lookup.name]
  | kind => [kind.name]
where
  /-- A kind of fault of the network layer and the wider ones, at most so many of them. -/
  networkKinds : Nat → NetworkFault → List NetworkFault
    | 0, fault => [fault]
    | depth + 1, fault => fault :: ((fault.wider?.map (networkKinds depth)).getD [])

/-- The names of the kinds that a failure belongs to, the narrowest first. -/
def kinds (failure : Failure) : List String :=
  match failure with
  | .engine _ => [failure.name]
  | .foreign kind _ => foreignKinds kind
  | .invalidData .. => []
  | .httpClient _ => [failure.name, "WorkflowEngineError"]
  | .condition _ => [failure.name, "WorkflowDefinitionError", "WorkflowEngineError"]
  | _ =>
    if failure.isHttp then [failure.name, "HttpClientError", "WorkflowEngineError"]
    else [failure.name, "WorkflowEngineError"]

/-- The wording, or the name of the kind where the wording is empty. -/
def wording (failure : Failure) : String :=
  if failure.message == "" then failure.name else failure.message

/-- Everything that is wrong with data that could not be read. -/
def faults? : Failure → Option (List Fault)
  | .invalidDefinition _ first rest => some (first :: rest)
  | .invalidData first rest => some (first :: rest)
  | _ => none

end Failure

end Orchestra
