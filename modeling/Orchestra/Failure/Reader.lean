import Orchestra.Failure

/-!
Failures that are described by data: the name of their kind and the arguments that they are made of.

Every kind takes a number of arguments of its own. A description with too few or too many of them
describes no failure; that is a failure as well, which tells what is missing.
-/

namespace Orchestra

/-- What a failure is made of: a value, or another failure. -/
abbrev Ingredient := Value ⊕ Failure

namespace Ingredient

def text : Ingredient → String
  | .inl value => value.text
  | .inr failure => failure.message

def literal : Ingredient → String
  | .inl value => value.literal
  | .inr failure => failure.name ++ "(" ++ Value.quoted failure.message ++ ")"

/-- The ingredient as a value; a failure counts as its text. -/
def value : Ingredient → Value
  | .inl value => value
  | .inr failure => .str failure.message

/-- The text of a failure that takes any ingredients. -/
def textOf : List Ingredient → String
  | [] => ""
  | [only] => only.text
  | several => "(" ++ ", ".intercalate (several.map literal) ++ ")"

end Ingredient

/-- The arguments that a kind of failure takes. -/
structure Parameters where
  /-- The kind that takes the arguments; the narrower kinds take the same. -/
  owner : String
  required : List String := []
  /-- How many more it may take. -/
  optional : Nat := 0
  /-- Arguments that have to be named, which a description cannot do. -/
  named : List String := []

namespace Parameters

/-- Names in quotes, joined as in a sentence. -/
def sentence : List String → String
  | [] => ""
  | [only] => "'" ++ only ++ "'"
  | [first, second] => "'" ++ first ++ "' and '" ++ second ++ "'"
  | [first, second, third] => "'" ++ first ++ "', '" ++ second ++ "', and '" ++ third ++ "'"
  | first :: rest => "'" ++ first ++ "', " ++ sentence rest

/-- One argument, or several. -/
def argumentsOf (count : Nat) : String :=
  if count == 1 then "argument" else "arguments"

/-- The wording for arguments that are missing. -/
def missing (parameters : Parameters) (manner : String) (names : List String) : String :=
  parameters.owner ++ ".__init__() missing " ++ String.ofList (Text.naturalText names.length)
    ++ " required " ++ manner ++ " " ++ argumentsOf names.length ++ ": " ++ sentence names

/-- The wording for too many arguments; the failure itself counts as one. -/
def tooMany (parameters : Parameters) (count : Nat) : String :=
  let least := parameters.required.length + 1
  let most := least + parameters.optional
  let taken :=
    if parameters.optional == 0 then String.ofList (Text.naturalText least)
    else "from " ++ String.ofList (Text.naturalText least) ++ " to "
      ++ String.ofList (Text.naturalText most)
  parameters.owner ++ ".__init__() takes " ++ taken ++ " positional " ++ argumentsOf most
    ++ " but " ++ String.ofList (Text.naturalText (count + 1)) ++ " were given"

/-- Checks a number of arguments. -/
def accept (parameters : Parameters) (count : Nat) : Except Failure Unit :=
  if parameters.required.length + parameters.optional < count then
    .error (.type (parameters.tooMany count))
  else if count < parameters.required.length then
    .error (.type (parameters.missing "positional" (parameters.required.drop count)))
  else if !parameters.named.isEmpty then
    .error (.type (parameters.missing "keyword-only" parameters.named))
  else .ok ()

end Parameters

namespace Failure

/-- A third argument that a fault of a blocked operation takes for a count of what was done. -/
def countFault? : Value → Option Failure
  | .int n =>
    if n < -(Nat.pow 2 63) || Nat.pow 2 63 ≤ n then
      some (.value "cannot fit 'int' into an index-sized integer")
    else none
  | .float _ => some (.type "'float' object cannot be interpreted as an integer")
  | _ => none

/-- The kind that a value among arguments stands for when it equals an error number. -/
def systemFaultOf (number : Value) : SystemFault :=
  (((List.range 128).map Int.ofNat).find? fun known => number.same (.int known)).elim .other
    SystemFault.ofNumber

/-- A fault of the operating system: its number and text, and perhaps one or two files. -/
def ofSystem (arguments : List Ingredient) : Except Failure Failure :=
  match arguments with
  | number :: text :: rest =>
    if 3 < rest.length then .ok (.system (Ingredient.textOf arguments))
    else
      match number.value with
      | .list _ | .obj _ => .error (.type ("unhashable type: '" ++ number.value.kindName ++ "'"))
      | code =>
        let fault := systemFaultOf code
        let head := "[Errno " ++ number.text ++ "] " ++ text.text
        let file? (position : Nat) : Option String :=
          match rest[position]? with
          | some (.inl .null) | none => none
          | some name => some name.literal
        match rest.head?.map Ingredient.value with
        | some third =>
          if fault == .blocking && third.number?.isSome then
            match countFault? third with
            | some fault => .error fault
            | none => .ok (.foreign (.system fault) head)
          else
            let files :=
              match file? 0, file? 2 with
              | some first, some second => ": " ++ first ++ " -> " ++ second
              | some first, none => ": " ++ first
              | none, _ => ""
            .ok (.foreign (.system fault) (head ++ files))
        | none => .ok (.foreign (.system fault) head)
  | arguments => .ok (.system (Ingredient.textOf arguments))

/-- Why a value cannot be written as a number of seconds. -/
def secondsFault? (amount : Value) : Option Failure :=
  match amount.number? with
  | some number =>
    match number.toFloat with
    | .ok _ => none
    | .error error => some (outOfRange error)
  | none =>
    match amount with
    | .str _ => some (.value "Unknown format code 'f' for object of type 'str'")
    | other =>
      some (.type ("unsupported format string passed to " ++ other.kindName ++ ".__format__"))

/-- The kinds of failures that are made of one text each. -/
def worded : List (String × (String → Failure)) :=
  [("WorkflowEngineError", .engine), ("WorkflowDefinitionError", .definition),
    ("StepValidationError", .stepInvalid), ("NotificationError", .notification),
    ("HttpClientError", .httpClient), ("InvalidUrlError", .invalidUrl),
    ("TransportError", .transport)]

/-- The foreign kinds that take any arguments. -/
def unlimited : List ForeignKind :=
  [.runtime, .value, .key]

/-- The foreign kinds that are made of one text each, with the kind that takes it. -/
def foreignWorded (name : String) : Option (ForeignKind × String) :=
  let direct : List ForeignKind := [.url, .cookie, .stream .other]
  match direct.find? fun kind => kind.name == name with
  | some kind => some (kind, name)
  | none =>
    (NetworkFault.ofName? name).map fun fault =>
      (.network fault, if fault == .http then name else NetworkFault.request.name)

/-- A failure of a kind that is not the engine's. -/
def foreignOf (name : String) (arguments : List Ingredient) : Except Failure Failure := do
  let text := (arguments.head?.map Ingredient.text).getD ""
  match unlimited.find? fun kind => kind.name == name with
  | some .key =>
    return .foreign .key
      (match arguments with
        | [only] => only.literal
        | arguments => Ingredient.textOf arguments)
  | some kind => return .foreign kind (Ingredient.textOf arguments)
  | none =>
    match StreamFault.worded.find? fun fault => fault.name == name with
    | some fault =>
      ({ owner := name } : Parameters).accept arguments.length
      return .foreign (.stream fault) fault.wording
    | none =>
      match foreignWorded name with
      | some (kind, owner) =>
        ({ owner, required := ["message"] } : Parameters).accept arguments.length
        return .foreign kind text
      | none =>
        if name == "HTTPStatusError" then
          ({ owner := name, required := ["message"], named := ["request", "response"] }
            : Parameters).accept arguments.length
        throw (missingKey name)

/-- The failure of a kind that is made of some arguments. -/
def ofArguments (name : String) (arguments : List Ingredient) : Except Failure Failure := do
  let argument (position : Nat) : Value := (arguments[position]?.map Ingredient.value).getD .null
  let text (position : Nat) : String := (argument position).text
  let takes (required : List String) (optional : Nat) : Except Failure Unit :=
    ({ owner := name, required, optional } : Parameters).accept arguments.length
  match worded.lookup name with
  | some make =>
    ({ owner := "WorkflowEngineError", required := ["message"] }
      : Parameters).accept arguments.length
    return make (text 0)
  | none =>
    match name with
    | "WorkflowNotFoundError" => takes ["name"] 0; return .workflowNotFound (argument 0)
    | "WorkflowDisabledError" => takes ["name"] 0; return .workflowDisabled (argument 0)
    | "QueueShutdownError" =>
      takes [] 1
      return .queueShutdown
        (if arguments.isEmpty then "Workflow queue is shutting down" else text 0)
    | "CascadeDepthExceededError" =>
      takes ["depth", "max_depth"] 0
      return .cascadeTooDeep (argument 0) (argument 1)
    | "ServiceNotConfiguredError" => takes ["service"] 0; return .serviceMissing (argument 0)
    | "PluginNotFoundError" => takes ["name"] 0; return .pluginNotFound (text 0)
    | "PluginActionNotFoundError" =>
      takes ["plugin", "action"] 0
      return .actionNotFound (text 0) (text 1)
    | "BlockedAddressError" => takes ["host"] 0; return .addressBlocked (argument 0)
    | "PayloadTooLargeError" =>
      takes ["size", "limit"] 0
      return .payloadTooLarge (argument 0) (argument 1)
    | "CircuitOpenError" =>
      takes ["host", "failures", "threshold", "retry_after"] 0
      match secondsFault? (argument 3) with
      | some fault => throw fault
      | none => return .circuitOpen (argument 0) (argument 1) (argument 2) (argument 3)
    | "RequestTimeoutError" => takes ["timeout"] 0; return .requestTimeout (argument 0)
    | "HttpStatusError" =>
      takes ["status_code"] 1
      return .httpStatus (argument 0) (if arguments.length < 2 then .str "" else argument 1)
    | "RetriesExhaustedError" =>
      takes ["attempts"] 1
      return .retriesExhausted (argument 0) (arguments[1]?.getD (.inl .null))
    | "OSError" => ofSystem arguments
    | name => foreignOf name arguments

/-- The fields describe a failure. -/
def isDescription (fields : Fields) : Bool :=
  fields.has "error"

/-- The kind that fields name. -/
def kindIn (fields : Fields) : String :=
  ((fields.get? "error").bind Value.str?).getD ""

mutual

/-- What a failure is made of: a value, or the failure that it describes. -/
def ingredient : Value → Except Failure Ingredient
  | .obj fields =>
    if isDescription fields then
      ((argumentsAmong fields).bind (ofArguments (kindIn fields))).map .inr
    else .ok (.inl (.obj fields))
  | value => .ok (.inl value)

def ingredients : List Value → Except Failure (List Ingredient)
  | [] => .ok []
  | value :: rest =>
    match ingredient value, ingredients rest with
    | .ok first, .ok more => .ok (first :: more)
    | .error error, _ | .ok _, .error error => .error error

/-- The arguments that a value lists. -/
def argumentsIn : Value → Except Failure (List Ingredient)
  | .list values => ingredients values
  | _ => .ok []

/-- The arguments that fields name. -/
def argumentsAmong : List (String × Value) → Except Failure (List Ingredient)
  | [] => .ok []
  | (name, value) :: rest => if name == "args" then argumentsIn value else argumentsAmong rest

end

/-- The failure that fields describe. -/
def ofFields (fields : Fields) : Except Failure Failure :=
  (argumentsAmong fields).bind (ofArguments (kindIn fields))

/-- The failure that a value describes: by its fields, or by its text alone. -/
def ofValue? : Value → Except Failure (Option Failure)
  | .null => .ok none
  | .obj fields => (ofFields fields).map some
  | value => .ok (some (.runtime value.text))

/-- The failure that fields ask for: the one that they describe, or the one of describing it. -/
def asked (fields : Fields) : Failure :=
  match ofFields fields with
  | .ok failure | .error failure => failure

/-- The failure that a value asks for. -/
def asked? : Value → Option Failure
  | .null => none
  | .obj fields => some (asked fields)
  | value => some (.runtime value.text)

/-- What a failure says about itself besides its text. -/
def details : Failure → Fields
  | .workflowNotFound name | .workflowDisabled name => [("workflow_name", name)]
  | .cascadeTooDeep depth limit => [("depth", depth), ("max_depth", limit)]
  | .serviceMissing service => [("service", service)]
  | .addressBlocked host => [("host", host)]
  | .payloadTooLarge size limit => [("size", size), ("limit", limit)]
  | .circuitOpen host _ _ retryAfter => [("host", host), ("retry_after", retryAfter)]
  | .requestTimeout timeout => [("timeout", timeout)]
  | .httpStatus code reason => [("status_code", code), ("reason", reason)]
  | .retriesExhausted attempts _ => [("attempts", attempts)]
  | _ => []

/-- Everything that is known of a failure. -/
def toFields (failure : Failure) : Except Failure Fields := do
  let retryable ← failure.retryable.mapError operand
  return [("kind", .str failure.name), ("str", .str failure.message),
      ("bases", .list (failure.kinds.map Value.str))]
    ++ (retryable.map fun retryable => ("retryable", Value.bool retryable)).toList
    ++ failure.details

end Failure

end Orchestra
