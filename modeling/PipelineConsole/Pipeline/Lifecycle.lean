import PipelineConsole.Fault.ErrorBody
import PipelineConsole.Pipeline.Status

/-!
# The lifecycle of a pipeline

The statuses form a graph; a pipeline moves along its edges only. Four actions drive it: each is
allowed in some statuses, puts the pipeline into an in-between status at once and leads to a final
status later.

## Main definitions

* `Status.successors`, `Status.CanBecome` — the graph
* `Status.canPause`, `Status.canResume`, … — the guards
* `Action` — the actions, with `Action.isAllowed`, `Action.optimistic` and `Action.final`
* `Refusal` — a refused change of status
-/

namespace PipelineConsole

namespace Status

/-- The statuses that a status may change to. -/
def successors : Status → List Status
  | created => [running, failed, terminating]
  | running => [pausing, stopping, terminating, failed]
  | pausing => [paused, failed, terminating]
  | paused => [resuming, stopping, terminating, failed]
  | resuming => [running, failed, terminating]
  | stopping => [stopped, failed, terminating]
  | stopped => [resuming, failed, terminating]
  | terminating => [terminated, failed]
  | terminated => []
  | failed => [resuming, terminating]

/-- An edge of the graph. -/
def CanBecome (s t : Status) : Prop := t ∈ s.successors

instance (s t : Status) : Decidable (s.CanBecome t) := inferInstanceAs (Decidable (_ ∈ _))

/-- Whether a pipeline may be paused. -/
def canPause (s : Status) : Bool := s = running

/-- Whether a pipeline may be resumed. -/
def canResume (s : Status) : Bool := s = paused || s = stopped

/-- Whether a pipeline may be stopped. -/
def canStop (s : Status) : Bool := s = running || s = paused

/-- Whether a configuration may be changed: only while nothing is deployed. -/
def canEdit (s : Status) : Bool := s = stopped

/-- Whether a pipeline may be terminated. -/
def canTerminate (s : Status) : Bool := !(s = terminating || s = terminated)

/-- Whether a pipeline may be deleted. -/
def canDelete (s : Status) : Bool := s = stopped || s = terminated || s = failed

end Status

/-- What a user asks of a pipeline. -/
inductive Action where
  | pause
  | resume
  | stop
  | terminate
  deriving DecidableEq, Repr

namespace Action

/-- All actions. -/
def all : List Action := [pause, resume, stop, terminate]

/-- The name of an action. -/
def name : Action → String
  | pause => "pause"
  | resume => "resume"
  | stop => "stop"
  | terminate => "terminate"

/-- The action with the given name. -/
def ofName? (s : String) : Option Action := all.find? fun a => a.name = s

/-- Whether the action is allowed in a status. -/
def isAllowed : Action → Status → Bool
  | pause => Status.canPause
  | resume => Status.canResume
  | stop => Status.canStop
  | terminate => Status.canTerminate

/-- The in-between status shown as soon as the action is issued. -/
def optimistic : Action → Status
  | pause => .pausing
  | resume => .resuming
  | stop => .stopping
  | terminate => .terminating

/-- The status that the action leads to. -/
def final : Action → Status
  | pause => .paused
  | resume => .running
  | stop => .stopped
  | terminate => .terminated

/-- The form in documents. -/
def codec : Json.Codec Action := .variants (all.map fun a => (a.name, a)) name

end Action

/-- A change of status that the graph does not allow. -/
structure Refusal where
  current : Status
  requested : Status
  deriving DecidableEq, Repr

namespace Refusal

/-- The wording of a refusal. -/
def message (r : Refusal) : String :=
  "invalid status transition from " ++ r.current.name ++ " to " ++ r.requested.name

/-- The status code of the answer. -/
def httpStatus : UInt16 := 400

/-- The error body of a refusal for a pipeline, with what would have been allowed. -/
def toFault (r : Refusal) (id : String) : BackendFault :=
  ({ status := some httpStatus
     code := some "invalid_status_transition"
     message := some r.message } : BackendFault)
    |>.withDetail "pipeline_id" (.string id)
    |>.withDetail "current_status" (.string r.current.name)
    |>.withDetail "requested_status" (.string r.requested.name)
    |>.withDetail "valid_transitions" (.strings (r.current.successors.map Status.name))

end Refusal

/-- Checks a change of status against the graph. -/
def Status.check (s t : Status) : Except Refusal Unit :=
  if s.CanBecome t then .ok () else .error ⟨s, t⟩

end PipelineConsole
