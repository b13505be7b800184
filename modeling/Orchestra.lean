import Orchestra.Execution.Printer
import Orchestra.Logging.Line
import Orchestra.Plugin.Registry
import Orchestra.Rehearsal.Scenario
import Orchestra.Rehearsal.Transcript
import Orchestra.Workflow.Printer
import Orchestra.Plugin.Reader
import Orchestra.Proofs.Queue.Refinement
import Orchestra.Proofs.Queue.Lifecycle
import Orchestra.Proofs.Queue.Window
import Orchestra.Proofs.Queue.Setback
import Orchestra.Proofs.Breaker.Probe
import Orchestra.Proofs.Breaker.Independence
import Orchestra.Proofs.Breaker.Spacing
import Orchestra.Proofs.Breaker.Remaining
import Orchestra.Proofs.Http.Rejection
import Orchestra.Proofs.Manager.Lineage
import Orchestra.Proofs.Execution.Isolation
import Orchestra.Proofs.Execution.Reporting
import Orchestra.Proofs.Workflow.Acceptance
import Orchestra.Proofs.Execution.Composition
import Orchestra.Proofs.Queue.Slots
import Orchestra.Proofs.Queue.Budget
import Orchestra.Proofs.Queue.Rearming
import Orchestra.Proofs.Queue.Tickets
import Orchestra.Proofs.Queue.Cleaning
import Orchestra.Proofs.Rehearsal.Shutdown
import Orchestra.Proofs.Queue.Record
import Orchestra.Proofs.Routing.Starting
import Orchestra.Proofs.Notification.Subject
import Orchestra.Proofs.Http.Allowance
import Orchestra.Proofs.Retry.Delay
import Orchestra.Proofs.Template.Expression
import Orchestra.Proofs.Variables.Frames
import Orchestra.Proofs.Path
import Orchestra.Proofs.Address.Literal
import Orchestra.Proofs.Condition.Operators
import Orchestra.Proofs.Condition.Rewriting
import Orchestra.Proofs.Http.Spelling
import Orchestra.Proofs.Notification.Assembly
import Orchestra.Proofs.Http.Reception
