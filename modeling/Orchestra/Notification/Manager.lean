import Orchestra.Notification.Delivery
import Orchestra.Validation
import Orchestra.Value.Sorting

/-!
The manager of notifications: it knows adapters by name and hands each message to the one it asks
for, or to the default one.
-/

namespace Orchestra.Notification

/-- The description of one adapter. -/
structure AdapterConfig where
  name : String
  kind : String
  options : Fields := []

/-- The description of a manager. -/
structure ManagerConfig where
  default : Option String := none
  adapters : List AdapterConfig := []

namespace ManagerConfig

def adapter : Read.Reader AdapterConfig
  | .obj entries =>
    AdapterConfig.mk <$> Read.field entries "name" Read.string
      <*> Read.field entries "type" Read.string <*> Read.fieldD entries "config" [] [] Read.fields
  | _ => Checked.fault .modelType

def reader : Read.Reader ManagerConfig
  | .obj entries =>
    ManagerConfig.mk <$> Read.optional entries "default" Read.string
      <*> Read.fieldD entries "adapters" [] [] (Read.list adapter)
  | _ => Checked.fault .modelType

/-- A manager with nothing but a console. -/
def consoleOnly : ManagerConfig :=
  { default := some "console", adapters := [⟨"console", "console", []⟩] }

/-- Null stands for data without any field. -/
def given (data : Value) : Value :=
  match data with
  | .null => .obj []
  | data => data

/-- The description that data holds; one without adapters stands for a console. -/
def ofValue (data : Value) : Except Failure ManagerConfig :=
  match reader (given data) with
  | .invalid first rest => .error (.invalidData first rest)
  | .valid config => .ok (if config.adapters.isEmpty then consoleOnly else config)

end ManagerConfig

structure Manager where
  default : Value := .str "console"
  /-- The adapters by the names that messages use; equal values are one name. -/
  adapters : List (Value × Adapter) := []
  /-- How many adapters were ever built. -/
  built : Nat := 0

namespace Manager

/-- Replaces the adapter of a name in its place, or appends it. -/
def putAdapter (name : Value) (adapter : Adapter) : List (Value × Adapter) → List (Value × Adapter)
  | [] => [(name, adapter)]
  | (other, old) :: rest =>
    if other.same name then (other, adapter) :: rest
    else (other, old) :: putAdapter name adapter rest

/-- Adds a newly built adapter under a name. -/
def add (manager : Manager) (key name : Value) (channel : Channel) : Manager :=
  { manager with
    adapters := putAdapter key ⟨manager.built, name, channel⟩ manager.adapters
    built := manager.built + 1 }

/-- Adds an adapter under a name, or under its own when that is empty. -/
def register (manager : Manager) (key own : Value) (channel : Channel) : Except Failure Manager :=
  let name := Adapter.either key own
  (Failure.requireKey name).map fun () => manager.add name own channel

/-- Adds the adapter of a description; one of an unknown kind, or with options that do not fit it, is
left out. -/
def addConfigured (hasClient : Bool) (manager : Manager) (config : AdapterConfig) :
    Except Failure Manager :=
  match Channel.ofConfig? config.kind config.options hasClient with
  | none => .ok manager
  | some (.ok channel) => manager.register (.str config.name) (.str config.name) channel
  | some (.error failure) => if Channel.isMisfit failure then .ok manager else .error failure

/-- The manager of a description. -/
def ofConfig (hasClient : Bool) (config : ManagerConfig) : Except Failure Manager :=
  config.adapters.foldlM (addConfigured hasClient) { default := .ofString? config.default }

/-- The manager that data describes. -/
def ofData (hasClient : Bool) (data : Value) : Except Failure Manager := do
  ofConfig hasClient (← ManagerConfig.ofValue data)

/-- A manager with a console, and with a webhook when there is an HTTP client. -/
def withDefaults (hasClient : Bool) (url : Value) : Except Failure Manager :=
  ofConfig hasClient {
    default := some "console"
    adapters := ⟨"console", "console", []⟩ ::
      if hasClient then [⟨"webhook", "webhook", [("url", url)]⟩] else [] }

def adapter? (manager : Manager) (name : Value) : Option Adapter :=
  (manager.adapters.find? fun entry => entry.1.same name).map Prod.snd

/-- The adapter of a name, if there is one. -/
def lookUp (manager : Manager) (name : Value) : Except Failure (Option Adapter) :=
  (Failure.requireKey name).map fun () => manager.adapter? name

/-- The names of the adapters in order. -/
def names (manager : Manager) : Except Failure (List Value) :=
  (Value.sorted (manager.adapters.map Prod.fst)).mapError Failure.operand

/-- The default adapter, and the kinds of all adapters by name. -/
def status (manager : Manager) : Except Failure Fields := do
  let names ← manager.names
  return [("default_adapter", manager.default),
    ("adapters", .obj (names.filterMap fun name =>
      (manager.adapter? name).map fun adapter => (name.text, .str adapter.channel.kindName)))]

/-- The adapter for a message, and the name it was found by. -/
def choose (manager : Manager) (message : Message) : Except Failure (String × Adapter) := do
  let name := Adapter.either message.adapter manager.default
  if !name.truthy then throw (.notification "No notification adapter specified")
  match ← manager.lookUp name with
  | some adapter => return (name.text, adapter)
  | none => throw (.notification ("Notification adapter not found: " ++ name.text))

/-- Fills in and delivers a message; a delivery that did not succeed is a failure. -/
def send (manager : Manager) (message : Message) : Errand Receipt :=
  match manager.choose message with
  | .error failure => .done (.error failure)
  | .ok (name, adapter) =>
    match message.rendered with
    | .error failure => .done (.error failure)
    | .ok message =>
      (adapter.deliver message).map fun outcome => do
        let receipt ← outcome
        if receipt.success then return receipt
        else
          throw (.notification ("Notification via " ++ name ++ " failed: "
            ++ receipt.error.getD "None"))

end Manager

end Orchestra.Notification
