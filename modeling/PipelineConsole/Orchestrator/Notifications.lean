import PipelineConsole.Orchestrator.Handler
import PipelineConsole.Time.Order

/-!
# Calls about notifications

## Main definitions

* `Orchestrator.listNotifications`, `Orchestrator.getNotification` — what is told
* `Orchestrator.deleteNotification`, `Orchestrator.markRead` — changes
-/

namespace PipelineConsole.Orchestrator

/-- The notifications that a query selects, the newest first. -/
def listNotifications (s : Orchestrator) (q : NotificationQuery) : List Notification :=
  Timestamp.newestFirst Notification.createdAt (s.notifications.filter q.Matches)

/-- A notification. -/
def getNotification (s : Orchestrator) (id : String) : Except Fault Notification :=
  match s.notifications.find? (·.id = id) with
  | some n => .ok n
  | none => .error (.unknownNotification id)

/-- Deletes a notification. Whether it was there shows in how many are left. -/
def deleteNotification (id : String) : Handler Unit := do
  let before ← Handler.look fun s => .ok s.notifications.length
  Handler.update fun s => { s with notifications := s.notifications.filter (·.id ≠ id) }
  let left ← Handler.look fun s => .ok s.notifications.length
  Handler.ensure (left ≠ before) (.unknownNotification id)

/-- Whether marking the given ids turns a notification from unread to read. -/
def turnsRead (ids : List String) (n : Notification) : Bool := !n.read && n.id ∈ ids

/-- Marks notifications as read and returns how many were turned from unread to read. -/
def markRead (s : Orchestrator) (ids : List String) : Nat × Orchestrator :=
  (s.notifications.countP (turnsRead ids),
    { s with
      notifications := s.notifications.map fun n =>
        if turnsRead ids n then { n with read := true } else n })

end PipelineConsole.Orchestrator
