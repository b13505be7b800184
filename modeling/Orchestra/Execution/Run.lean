import Orchestra.Execution.Step

/-!
A run of a workflow: its steps one after the other, with a trail of what happened.

A run never fails by itself; a failure of a step is part of its result.
-/

namespace Orchestra.Execution

inductive LogLevel where
  | debug
  | info
  | error
deriving DecidableEq, Repr

def LogLevel.name : LogLevel → String
  | .debug => "debug"
  | .info => "info"
  | .error => "error"

/-- One entry of the trail of a run. -/
structure LogEntry where
  level : LogLevel
  message : String
  data : Value := .null

/-- The result of a run: the variables at its end, or why it failed. -/
structure RunResult where
  outcome : Except Failure Fields
  logs : List LogEntry

namespace LogEntry

def started (workflow : String) : LogEntry :=
  ⟨.info, "Starting workflow: " ++ workflow, .null⟩

/-- The entry of a step; steps count from one. -/
def stepStarted (position : Nat) (step : Step) : LogEntry :=
  ⟨.debug, "Executing step " ++ String.ofList (Text.naturalText position) ++ ": " ++ step.kindName,
    .null⟩

def completed : LogEntry :=
  ⟨.info, "Workflow completed", .null⟩

def failed (failure : Failure) : LogEntry :=
  ⟨.error, "Workflow failed",
    .obj [("error", .str failure.wording), ("error_type", .str failure.name)]⟩

end LogEntry

/-- Runs the steps of a workflow from a position on; the entries of the steps that were started,
and the failure that ended them. -/
def runFrom (collaborators : Collaborators) (position : Nat) :
    List Step → Context → Program conversation ((List LogEntry × Option Failure) × Context)
  | [], context => .done (([], none), context)
  | step :: rest, context =>
    (runStep collaborators step context).bind fun
      | (.error failure, context) =>
        .done (([LogEntry.stepStarted position step], some failure), context)
      | (.ok _, context) =>
        (runFrom collaborators (position + 1) rest context).map fun ((entries, failure), context) =>
          ((LogEntry.stepStarted position step :: entries, failure), context)

/-- Runs a workflow in a context; the result, and the context afterwards. -/
def runWorkflow (collaborators : Collaborators) (workflow : Definition) (context : Context) :
    Program conversation (RunResult × Context) :=
  (runFrom collaborators 1 workflow.steps (context.startedBy workflow.name)).map
    fun ((entries, failure), context) =>
      match failure with
      | some failure =>
        (⟨.error failure, LogEntry.started workflow.name :: entries ++ [LogEntry.failed failure]⟩,
          context)
      | none =>
        (⟨.ok context.bindings.entries,
          LogEntry.started workflow.name :: entries ++ [LogEntry.completed]⟩, context)

end Orchestra.Execution
