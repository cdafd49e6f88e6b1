import PipelineConsole.Fault.ErrorBody
import PipelineConsole.Http.Exchange
import PipelineConsole.Pipeline.Basic
import PipelineConsole.StatusStream.Event
import PipelineConsole.StatusStream.Frame
import PipelineConsole.Url.Reader

/-!
# The console as a source of statuses

Whoever follows the statuses of pipelines asks the console for them: one pipeline at a time, or many
as a stream of events. The stream is decoded as it comes in. Events that are not known are skipped,
and a payload that cannot be read is told without ending the stream.

## Main definitions

* `SourceError`, `SourceError.toErrorBody` — why the source fails
* `HttpSource`, `HttpSource.fetchHealth`, `HttpSource.openStream` — asking the console
* `StatusEvent.ofIncoming` — the events of a stream
-/

namespace PipelineConsole

open Http (Incoming Network Outgoing)
open Text.Utf8 (Bytes)

/-- Why the source fails. -/
inductive SourceError where
  | request (cause : Http.Failure)
  | document (cause : Json.ReadError)
  | answered (body : ErrorBody)
  | event (cause : StatusEvent.ReadError)
  | badUrl (base : String) (cause : Option UrlError)
  deriving DecidableEq, Repr

namespace SourceError

/-- What is told of a document that cannot be read. -/
def readMessage : Json.ReadError → String
  | .malformed => "malformed document"
  | .mismatch _ cause => cause.message

/-- What is told of an event that cannot be read. -/
def eventMessage : StatusEvent.ReadError → String
  | .unknownEvent name => "unknown event: " ++ name
  | .payload cause => "invalid event payload: " ++ readMessage cause

/-- The wording of an error. -/
def message : SourceError → String
  | request cause => "request failed: " ++ cause.message
  | document cause => "request failed: " ++ readMessage cause
  | answered body => body.line
  | event cause => "invalid stream event: " ++ eventMessage cause
  | badUrl base none => "invalid base url: " ++ base
  | badUrl base (some cause) => "invalid base url: " ++ base ++ ": " ++ cause.message

/-- The code and the message that are shown for an error. -/
def toErrorBody : SourceError → ErrorBody
  | answered body => body
  | request .timedOut => ⟨503, "backend request timed out"⟩
  | request .unreachable => ⟨503, "backend unavailable"⟩
  | e => ⟨500, e.message⟩

end SourceError

/-- The events of a chunk of a stream, and the decoder after it. -/
def StatusEvent.ofChunk (d : Frame.Decoder) (chunk : Bytes) :
    Frame.Decoder × List (Except SourceError StatusEvent) :=
  let (d, frames) := d.push chunk
  (d, frames.filterMap fun f =>
    match StatusEvent.read f.event f.data with
    | .ok e => some (.ok e)
    | .error (.unknownEvent _) => none
    | .error e => some (.error (.event e)))

/-- The events of the chunks of a stream. -/
def StatusEvent.ofChunks : Frame.Decoder → List Bytes → List (Except SourceError StatusEvent)
  | _, [] => []
  | d, chunk :: rest =>
    let (d, events) := StatusEvent.ofChunk d chunk
    events ++ StatusEvent.ofChunks d rest

/-- The events of a stream, and at its end the failure that breaks it off, if one does. -/
def StatusEvent.ofIncoming (a : Incoming) : List (Except SourceError StatusEvent) :=
  StatusEvent.ofChunks {} a.pieces ++ (a.failure.map fun f => .error (.request f)).toList

/-- A console that is asked for statuses, by a caller who may have a token and who may not wait
longer than a number of milliseconds. -/
structure HttpSource where
  baseUrl : String
  token : Option String := none
  timeLimit : Option Nat := none
  deriving DecidableEq, Repr

namespace HttpSource

/-- The console at an address. Slashes at the end of the address do not count. -/
def ofUrl (url : String) (token : Option String) (timeLimit : Option Nat) : HttpSource :=
  ⟨Text.dropEnd '/' url, token, timeLimit⟩

/-- A request for what is below the address of the console. -/
def get (c : HttpSource) (segments : List String) : Except SourceError Outgoing :=
  match Url.read c.baseUrl with
  | .error cause => .error (.badUrl c.baseUrl (some cause))
  | .ok url =>
    match url.under? segments with
    | none => .error (.badUrl c.baseUrl none)
    | some url =>
      let plain : Outgoing := { method := .get, url, timeLimit := c.timeLimit }
      .ok (plain.onBehalfOf c.token)

/-- The request for the status of a pipeline. -/
def healthRequest (c : HttpSource) (id : String) : Except SourceError Outgoing :=
  c.get ["api", "pipeline", id, "health"]

/-- The request for a stream of events about some pipelines. -/
def streamRequest (c : HttpSource) (ids : List String) : Except SourceError Outgoing := do
  let r ← c.get ["api", "pipeline", "status", "stream"]
  return { r with
    url := r.url.withQuery [("pipeline_ids", String.intercalate "," ids)]
    headers := r.headers ++ [("accept", "text/event-stream")] }

/-- What an error answer tells: the body, or the status if the body cannot be read. -/
def refused (a : Incoming) : ErrorBody :=
  (a.document? ErrorBody.codec).getD
    ⟨a.status, "unexpected status " ++ toString a.status.toNat⟩

/-- The document in an answer. -/
def readDocument {α : Type} (codec : Json.Codec α) (a : Incoming) : Except SourceError α := do
  let body ← a.body.mapError .request
  (codec.read body).mapError .document

variable {σ : Type}

/-- Sends a request, and understands an answer of success. -/
def ask {α : Type} (n : Network σ) (o : Occasion) (request : Except SourceError Outgoing)
    (understand : Incoming → Except SourceError α) (s : σ) : Except SourceError α × σ :=
  match request with
  | .error e => (.error e, s)
  | .ok r =>
    match n.send o r s with
    | (.error f, s) => (.error (.request f), s)
    | (.ok a, s) => (if a.isSuccess then understand a else .error (.answered (refused a)), s)

/-- Asks for the status of a pipeline. -/
def fetchHealth (c : HttpSource) (n : Network σ) (o : Occasion) (id : String) :
    σ → Except SourceError Pipeline.Health × σ :=
  ask n o (c.healthRequest id) (readDocument Pipeline.Health.codec)

/-- Asks for a stream of events about some pipelines, and reads it to its end. -/
def openStream (c : HttpSource) (n : Network σ) (o : Occasion) (ids : List String) :
    σ → Except SourceError (List (Except SourceError StatusEvent)) × σ :=
  ask n o (c.streamRequest ids) fun a => .ok (StatusEvent.ofIncoming a)

end HttpSource

end PipelineConsole
