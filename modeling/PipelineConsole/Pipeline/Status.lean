import PipelineConsole.Json.Codec

/-!
# Pipeline statuses

The ten statuses of a pipeline, their names and the groups that the console tells apart.

## Main definitions

* `Status`, `Status.name` — statuses and their names
* `Status.isActive`, `Status.isFailed`, `Status.isTerminated`, `Status.isTransitional` — groups
* `Status.read?` — reads a name up to case and surrounding blanks
* `Status.codec` — the form in documents
-/

namespace PipelineConsole

/-- The status of a pipeline. -/
inductive Status where
  | created
  | running
  | pausing
  | paused
  | resuming
  | stopping
  | stopped
  | terminating
  | terminated
  | failed
  deriving DecidableEq, Repr, Inhabited

namespace Status

/-- All statuses. -/
def all : List Status :=
  [created, running, pausing, paused, resuming, stopping, stopped, terminating, terminated, failed]

/-- The name of a status. -/
def name : Status → String
  | created => "Created"
  | running => "Running"
  | pausing => "Pausing"
  | paused => "Paused"
  | resuming => "Resuming"
  | stopping => "Stopping"
  | stopped => "Stopped"
  | terminating => "Terminating"
  | terminated => "Terminated"
  | failed => "Failed"

/-- The name in lower case, which documents may also use. -/
def lowerName : Status → String
  | created => "created"
  | running => "running"
  | pausing => "pausing"
  | paused => "paused"
  | resuming => "resuming"
  | stopping => "stopping"
  | stopped => "stopped"
  | terminating => "terminating"
  | terminated => "terminated"
  | failed => "failed"

/-- Deployed and holding resources, on the way into or out of that included. -/
def isActive : Status → Bool
  | created | running | pausing | paused | resuming | stopping => true
  | _ => false

/-- Failed. -/
def isFailed (s : Status) : Bool := s = failed

/-- Stopped or terminated. -/
def isTerminated : Status → Bool
  | stopped | terminated => true
  | _ => false

/-- Waiting for an action to finish. -/
def isTransitional : Status → Bool
  | pausing | resuming | stopping | terminating => true
  | _ => false

/-- The status with the given name, up to the case of ASCII letters and surrounding blanks. -/
def read? (text : String) : Option Status :=
  all.find? fun s => Text.equalIgnoringCase s.name (Text.trim text)

/-- The message for a text that names no status. -/
def unknownMessage (text : String) : String := "unknown pipeline status: " ++ text

/-- In documents a status is its name; the lower-case name is accepted too. -/
def codec : Json.Codec Status :=
  .variants (all.flatMap fun s => [(s.name, s), (s.lowerName, s)]) name

end Status

end PipelineConsole
