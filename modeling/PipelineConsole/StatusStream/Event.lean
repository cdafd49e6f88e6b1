import PipelineConsole.Pipeline.Status
import PipelineConsole.Json.Record

/-!
# Events of the status stream

The status stream tells of changes of status, singly or in batches, keeps the connection alive with
heartbeats and reports failed checks. An event is sent as a name and a payload; the name selects the
kind of event.

## Main definitions

* `StatusChange`, `StatusEvent` — changes and events
* `StatusEvent.ofChanges?` — the event that tells of some changes
* `StatusEvent.eventName`, `StatusEvent.payload` — the written form
* `StatusEvent.read` — the reader
* `StatusEvent.changes` — the changes that an event carries
-/

namespace PipelineConsole

/-- A status of a pipeline, with the status known before. -/
structure StatusChange where
  id : String
  status : Status
  previous : Option Status := none
  deriving DecidableEq, Repr

/-- The form in documents. -/
def StatusChange.codec : Json.Codec StatusChange :=
  (Json.Codec.record "StatusChange"
    (.cons (.required "pipeline_id" .text) <|
      .cons (.required "status" Status.codec) <|
      .cons (.omittable "previous_status" Status.codec) .done)).iso
    (fun (id, status, previous, _) => ⟨id, status, previous⟩)
    (fun c => (c.id, c.status, c.previous, ()))

/-- A failed check, of one pipeline or of none in particular. -/
structure StreamFault where
  id : Option String
  code : UInt16
  message : String
  deriving DecidableEq, Repr

/-- An event of the stream, with the time at which it was sent. -/
inductive StatusEvent where
  | statusUpdate (change : StatusChange) (time : Timestamp)
  | batchUpdate (changes : List StatusChange) (time : Timestamp)
  | heartbeat (time : Timestamp)
  | fault (fault : StreamFault) (time : Timestamp)
  deriving DecidableEq, Repr

namespace StatusEvent

/-- The codec of the payload of a single change. -/
def statusUpdateCodec : Json.Codec (StatusChange × Timestamp) :=
  (Json.Codec.record "StatusUpdatePayload"
    (.cons (.required "pipeline_id" .text) <|
      .cons (.required "status" Status.codec) <|
      .cons (.omittable "previous_status" Status.codec) <|
      .cons (.required "timestamp" .timestamp) .done)).iso
    (fun (id, status, previous, time, _) => (⟨id, status, previous⟩, time))
    (fun (c, time) => (c.id, c.status, c.previous, time, ()))

/-- The codec of the payload of a batch of changes. -/
def batchUpdateCodec : Json.Codec (List StatusChange × Timestamp) :=
  (Json.Codec.record "BatchUpdatePayload"
    (.cons (.required "updates" (.list StatusChange.codec)) <|
      .cons (.required "timestamp" .timestamp) .done)).iso
    (fun (changes, time, _) => (changes, time)) (fun (changes, time) => (changes, time, ()))

/-- The codec of the payload of a heartbeat. -/
def heartbeatCodec : Json.Codec Timestamp :=
  (Json.Codec.record "HeartbeatPayload" (.cons (.required "timestamp" .timestamp) .done)).iso
    (fun (time, _) => time) (fun time => (time, ()))

/-- The codec of the payload of a failed check. -/
def faultCodec : Json.Codec (StreamFault × Timestamp) :=
  (Json.Codec.record "StreamErrorPayload"
    (.cons (.omittable "pipeline_id" .text) <|
      .cons (.required "code" .uint16) <|
      .cons (.required "message" .text) <|
      .cons (.required "timestamp" .timestamp) .done)).iso
    (fun (id, code, message, time, _) => (⟨id, code, message⟩, time))
    (fun (e, time) => (e.id, e.code, e.message, time, ()))

/-- The event that tells of some changes: none of no change, and no batch of one. -/
def ofChanges? (changes : List StatusChange) (time : Timestamp) : Option StatusEvent :=
  match changes with
  | [] => none
  | [change] => some (.statusUpdate change time)
  | changes => some (.batchUpdate changes time)

/-- The name under which an event is sent. -/
def eventName : StatusEvent → String
  | .statusUpdate .. => "status_update"
  | .batchUpdate .. => "batch_update"
  | .heartbeat _ => "heartbeat"
  | .fault .. => "error"

/-- The payload of an event, as a document. -/
def payload : StatusEvent → Json.Value
  | .statusUpdate change time => statusUpdateCodec.encode (change, time)
  | .batchUpdate changes time => batchUpdateCodec.encode (changes, time)
  | .heartbeat time => heartbeatCodec.encode time
  | .fault e time => faultCodec.encode (e, time)

/-- The payload of an event, as a text. -/
def data (e : StatusEvent) : String := e.payload.text

/-- Why a name and a payload are no event. -/
inductive ReadError where
  | unknownEvent (name : String)
  | payload (cause : Json.ReadError)
  deriving DecidableEq, Repr

/-- Reads the text of a payload. -/
def readPayload {α : Type} (codec : Json.Codec α) (data : String) : Except ReadError α :=
  (codec.read (Text.Utf8.encode data)).mapError .payload

/-- Reads an event from its name and the text of its payload. -/
def read (name data : String) : Except ReadError StatusEvent :=
  if name = "status_update" then
    (readPayload statusUpdateCodec data).map fun (c, time) => .statusUpdate c time
  else if name = "batch_update" then
    (readPayload batchUpdateCodec data).map fun (cs, time) => .batchUpdate cs time
  else if name = "heartbeat" then (readPayload heartbeatCodec data).map .heartbeat
  else if name = "error" then (readPayload faultCodec data).map fun (e, time) => .fault e time
  else .error (.unknownEvent name)

/-- The changes that an event carries. -/
def changes : StatusEvent → List StatusChange
  | .statusUpdate change _ => [change]
  | .batchUpdate changes _ => changes
  | .heartbeat _ | .fault .. => []

end StatusEvent

end PipelineConsole
