import PipelineConsole.DeadLetter.Message
import PipelineConsole.Expression.Request
import PipelineConsole.Notification.Basic
import PipelineConsole.Pipeline.Basic
import PipelineConsole.Pipeline.Lifecycle

/-!
# Operations

What can be asked of an orchestrator and of the notification service. An operation is a value; the
type of its reply depends on it.

## Main definitions

* `Operation`, `Operation.Reply` — operations and their replies
-/

namespace PipelineConsole

/-- What can be asked of a backend. -/
inductive Operation where
  | create (config : PipelineConfig)
  | list
  | get (id : String)
  | rename (id name : String)
  | edit (id : String) (config : PipelineConfig)
  | delete (id : String)
  | act (id : String) (action : Action)
  | terminateAll
  | health (id : String)
  | deadLetters (id : String)
  | consume (id : String) (size : Option UInt64)
  | purge (id : String)
  | platform
  | checkFilter (request : FilterRequest)
  | evaluateTransform (request : TransformRequest)
  | listNotifications (query : NotificationQuery)
  | getNotification (id : String)
  | deleteNotification (id : String)
  | markRead (ids : List String)

namespace Operation

/-- The type of the reply to an operation. -/
abbrev Reply : Operation → Type
  | create _ => String
  | list => List Pipeline.ListItem
  | get _ => Pipeline
  | rename .. | edit .. | delete _ | purge _ | checkFilter _ | deleteNotification _ => Unit
  | act .. => Status
  | terminateAll => List String
  | health _ => Pipeline.Health
  | deadLetters _ => DeadLetter.State
  | consume .. => List DeadLetter.Message
  | platform => PlatformInfo
  | evaluateTransform _ => Json.Value
  | listNotifications _ => List Notification
  | getNotification _ => Notification
  | markRead _ => UInt64

end Operation

end PipelineConsole
