import Orchestra.Failure
import Orchestra.Value.Sorting

/-!
The registry of plugins: named sets of actions that workflow steps can call.

Plugins are registered in code or discovered at entry points of installed packages. A plugin that
fails to load stays in the registry, disabled and with its error. What a plugin tells about itself is
kept as it is.
-/

namespace Orchestra

/-- Where a plugin comes from. -/
inductive PluginSource where
  | code
  | entryPoint
deriving DecidableEq, Repr

def PluginSource.name : PluginSource → String
  | .code => "code"
  | .entryPoint => "entrypoint"

/-- The version that stands for none. -/
def unversioned : Value := .str "0.0.0"

structure Plugin where
  name : Value
  /-- The names of the actions, each of them once. -/
  actions : List Value := []
  version : Value := unversioned
  description : Value := .str ""
  source : PluginSource := .code
  enabled : Bool := true
  errors : List String := []

namespace Plugin

/-- The values of a list in the order of their first occurrence. -/
def distinct (values : List Value) : List Value :=
  (values.foldl (fun kept value => if kept.any value.same then kept else value :: kept) []).reverse

/-- The actions in order. -/
def sortedActions (plugin : Plugin) : Except Failure (List Value) :=
  (Value.sorted plugin.actions).mapError Failure.operand

/-- A plugin as plain data, its actions in order. -/
def toFields (plugin : Plugin) : Except Failure Fields := do
  let actions ← plugin.sortedActions
  return [("name", plugin.name), ("version", plugin.version),
    ("description", plugin.description), ("source", .str plugin.source.name),
    ("enabled", .bool plugin.enabled), ("actions", .list actions),
    ("errors", .list (plugin.errors.map Value.str))]

end Plugin

/-- What an entry point leads to. -/
inductive EntryTarget where
  /-- Loading fails. -/
  | broken (error : String)
  /-- Bare actions. -/
  | actions (names : List Value)
  /-- An object that says more about itself; nothing stands for no actions. -/
  | described (actions : Option (List Value)) (version description : Value)

structure EntryPoint where
  name : Value
  /-- The version of the package that the entry point belongs to. -/
  package : Option Value
  target : EntryTarget

namespace EntryPoint

/-- A plugin that could not be loaded. -/
def failed (entry : EntryPoint) (error : String) : Plugin :=
  { name := entry.name, source := .entryPoint, enabled := false, errors := [error] }

/-- The plugin at an entry point; without a version it takes that of its package. -/
def load (entry : EntryPoint) : Plugin :=
  let versioned (plugin : Plugin) : Plugin :=
    match entry.package with
    | some version => if plugin.version.same unversioned then { plugin with version } else plugin
    | none => plugin
  match entry.target with
  | .broken error => entry.failed error
  | .actions names =>
    versioned { name := entry.name, actions := Plugin.distinct names, source := .entryPoint }
  | .described none _ _ =>
    entry.failed ("Plugin " ++ entry.name.text ++ " exposes no actions mapping")
  | .described (some names) version description =>
    versioned {
      name := entry.name, actions := Plugin.distinct names, version, description
      source := .entryPoint }

end EntryPoint

/-- Plugins in the order of the first registration of their names. -/
structure PluginRegistry where
  plugins : List Plugin := []

namespace PluginRegistry

/-- Replaces a plugin in its place, or appends it. -/
def put (registry : PluginRegistry) (plugin : Plugin) : PluginRegistry :=
  if registry.plugins.any fun other => other.name.same plugin.name then
    ⟨registry.plugins.map fun other => if other.name.same plugin.name then plugin else other⟩
  else ⟨registry.plugins ++ [plugin]⟩

/-- Registers a plugin under its name, which must not be empty. -/
def register (registry : PluginRegistry) (plugin : Plugin) : Except Failure PluginRegistry :=
  if !plugin.name.truthy then .error (.value "Plugin name is required")
  else .ok (registry.put { plugin with actions := Plugin.distinct plugin.actions })

def find? (registry : PluginRegistry) (name : Value) : Option Plugin :=
  registry.plugins.find? fun plugin => plugin.name.same name

/-- The plugin of a name, if it is enabled. -/
def get? (registry : PluginRegistry) (name : Value) : Option Plugin :=
  (registry.find? name).filter Plugin.enabled

/-- The names of all plugins in order. -/
def names (registry : PluginRegistry) : Except Failure (List Value) :=
  (Value.sorted (registry.plugins.map Plugin.name)).mapError Failure.operand

def unregister (registry : PluginRegistry) (name : Value) : PluginRegistry :=
  ⟨registry.plugins.filter fun plugin => !plugin.name.same name⟩

/-- Enables or disables a plugin; none when there is no plugin of that name. -/
def setEnabled? (registry : PluginRegistry) (name : Value) (enabled : Bool) :
    Option PluginRegistry :=
  (registry.find? name).map fun plugin => registry.put { plugin with enabled }

/-- Loads the plugins of entry points, in order. -/
def discover (registry : PluginRegistry) (entries : List EntryPoint) : PluginRegistry :=
  entries.foldl (fun result entry => result.put entry.load) registry

end PluginRegistry

end Orchestra
