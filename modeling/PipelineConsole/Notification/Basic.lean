import PipelineConsole.Json.Record

/-!
# Notifications

What users are told about pipelines, in the order in which it happened, and which of it they have
read.

## Main definitions

* `Severity`, `Notification` — notifications
* `NotificationQuery`, `NotificationQuery.Matches` — a selection of notifications
* `MarkReadRequest`, `MarkReadReply` — the documents of the call that marks notifications as read
-/

namespace PipelineConsole

/-- How serious a notification is. -/
inductive Severity where
  | info
  | warning
  | error
  | critical
  deriving DecidableEq, Repr

namespace Severity

/-- All severities. -/
def all : List Severity := [info, warning, error, critical]

/-- The name of a severity. -/
def name : Severity → String
  | info => "info"
  | warning => "warning"
  | error => "error"
  | critical => "critical"

/-- The form in documents. -/
def codec : Json.Codec Severity := .variants (all.map fun s => (s.name, s)) name

end Severity

/-- A notification. -/
structure Notification where
  id : String
  pipelineId : Option String
  severity : Severity
  title : String
  message : String
  createdAt : Timestamp
  read : Bool := false
  deriving DecidableEq, Repr

/-- The form in documents. -/
def Notification.codec : Json.Codec Notification :=
  (Json.Codec.record "Notification"
    (.cons (.required "notification_id" .text) <|
      .cons (.omittable "pipeline_id" .text) <|
      .cons (.required "severity" Severity.codec) <|
      .cons (.required "title" .text) <|
      .cons (.required "message" .text) <|
      .cons (.required "created_at" .timestamp) <|
      .cons (.withDefault "read" .bool false) .done)).iso
    (fun (id, pipelineId, severity, title, message, createdAt, read, _) =>
      ⟨id, pipelineId, severity, title, message, createdAt, read⟩)
    (fun n => (n.id, n.pipelineId, n.severity, n.title, n.message, n.createdAt, n.read, ()))

/-- Which notifications to list. -/
structure NotificationQuery where
  pipelineId : Option String := none
  unreadOnly : Option Bool := none
  deriving DecidableEq, Repr

namespace NotificationQuery

/-- The form in documents. -/
def codec : Json.Codec NotificationQuery :=
  (Json.Codec.record "NotificationQuery"
    (.cons (.optional "pipeline_id" .text) <| .cons (.optional "unread_only" .bool) .done)).iso
    (fun (pipelineId, unreadOnly, _) => ⟨pipelineId, unreadOnly⟩)
    (fun q => (q.pipelineId, q.unreadOnly, ()))

/-- The query selects the notification: it is for the pipeline asked for, if one is, and not read,
if only unread ones are asked for. -/
def Matches (q : NotificationQuery) (n : Notification) : Prop :=
  (∀ id, q.pipelineId = some id → n.pipelineId = some id) ∧
    (q.unreadOnly = some true → n.read = false)

instance (q : NotificationQuery) (n : Notification) : Decidable (q.Matches n) :=
  if h : (q.pipelineId = none ∨ n.pipelineId = q.pipelineId) ∧
      (q.unreadOnly = some true → n.read = false) then
    isTrue ⟨fun id hid => by
      rcases h.1 with h' | h'
      · rw [h'] at hid; cases hid
      · rw [h', hid], h.2⟩
  else
    isFalse fun ⟨h₁, h₂⟩ => h ⟨by
      cases hq : q.pipelineId with
      | none => exact .inl rfl
      | some id => exact .inr (h₁ id hq), h₂⟩

/-- The query as the pairs of a query string. -/
def pairs (q : NotificationQuery) : List (String × String) :=
  (q.pipelineId.toList.map fun id => ("pipeline_id", id)) ++
    (q.unreadOnly.toList.map fun b => ("unread_only", if b then "true" else "false"))

end NotificationQuery

/-- The request to mark notifications as read. -/
structure MarkReadRequest where
  ids : List String
  deriving DecidableEq, Repr

/-- The form in documents. -/
def MarkReadRequest.codec : Json.Codec MarkReadRequest :=
  (Json.Codec.record "MarkNotificationsReadParams"
    (.cons (.required "notification_ids" (.list .text)) .done)).iso
    (fun (ids, _) => ⟨ids⟩) (fun r => (r.ids, ()))

/-- The answer: how many notifications were turned from unread to read. -/
structure MarkReadReply where
  success : Bool := true
  updated : UInt64
  deriving DecidableEq, Repr

/-- The form in documents. -/
def MarkReadReply.codec : Json.Codec MarkReadReply :=
  (Json.Codec.record "MarkNotificationsReadResponse"
    (.cons (.required "success" .bool) <| .cons (.required "updated" .count) .done)).iso
    (fun (success, updated, _) => ⟨success, updated⟩) (fun r => (r.success, r.updated, ()))

end PipelineConsole
