import PipelineConsole.Clock.Occasion
import PipelineConsole.DeadLetter.Queue
import PipelineConsole.Demo
import PipelineConsole.Pipeline.Basic
import PipelineConsole.Pipeline.Lifecycle
import PipelineConsole.Table

/-!
# The in-memory orchestrator

When no orchestrator is deployed, this one stands in for it. It keeps pipelines, a queue of dead
letters for each, and notifications. The delayed half of every change of status is a timer, which is
part of the state: whoever runs the orchestrator lets the timers fire.

## Main definitions

* `Delays`, `Orchestrator.Rules` — how long changes take, and how many pipelines may be active
* `Timer` — a change of status to come
* `Orchestrator`, `Orchestrator.fresh` — the state and how it starts
* `Orchestrator.schedule`, `Orchestrator.notify` — what steps are made of
-/

namespace PipelineConsole

/-- How long the changes of status take, in milliseconds. -/
structure Delays where
  start : Nat := 1000
  pause : Nat := 1500
  resume : Nat := 1500
  stop : Nat := 2000
  terminate : Nat := 2000
  deriving DecidableEq, Repr

namespace Delays

/-- No delays. -/
def immediate : Delays := ⟨0, 0, 0, 0, 0⟩

/-- How long an action takes. -/
def ofAction (d : Delays) : Action → Nat
  | .pause => d.pause
  | .resume => d.resume
  | .stop => d.stop
  | .terminate => d.terminate

end Delays

/-- A change of a pipeline's status that is due at a time of the clock. The ticket is that of
whoever waits for the outcome. -/
structure Timer where
  id : String
  source : Status
  target : Status
  due : Nat
  setAt : Timestamp
  ticket : Option Nat := none
  deriving DecidableEq, Repr

/-- The state of the in-memory orchestrator. Notifications are in the order in which they came in,
timers in the order in which they were set. -/
structure Orchestrator where
  pipelines : Table Pipeline := {}
  queues : Table DeadLetter.Queue := {}
  notifications : List Notification := []
  timers : List Timer := []

namespace Orchestrator

/-- The rules of an orchestrator: its delays, and whether at most one pipeline may be active. -/
structure Rules where
  delays : Delays := {}
  singleActive : Bool := true
  deriving DecidableEq, Repr

/-- An orchestrator that has just started. -/
def fresh (welcomeAt lagAt : Timestamp) : Orchestrator where
  notifications := Demo.notifications welcomeAt lagAt

/-- The status of a pipeline. -/
def status? (s : Orchestrator) (id : String) : Option Status :=
  (s.pipelines.get? id).map Pipeline.status

/-- Sets a timer, for whoever waits for its outcome, if anybody does. -/
def scheduleFor (ticket : Option Nat) (s : Orchestrator) (o : Occasion) (id : String)
    (source target : Status) (delay : Nat) : Orchestrator :=
  { s with timers := s.timers ++ [⟨id, source, target, o.elapsed + delay, o.time, ticket⟩] }

/-- Sets a timer. -/
def schedule : Orchestrator → Occasion → String → Status → Status → Nat → Orchestrator :=
  scheduleFor none

/-- The most notifications that are kept. -/
def maxNotifications : Nat := 500

/-- Adds a notification; the oldest ones make room for it. -/
def notify (s : Orchestrator) (o : Occasion) (id : Option String) (severity : Severity)
    (title message : String) : Orchestrator :=
  let all := s.notifications ++ [⟨o.freshId, id, severity, title, message, o.time, false⟩]
  { s with notifications := all.drop (all.length - maxNotifications) }

end Orchestrator

end PipelineConsole
