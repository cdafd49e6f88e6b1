import PipelineConsole.Backend.Basic
import PipelineConsole.Console.Settings
import PipelineConsole.Console.Termination
import PipelineConsole.Http.Exchange
import PipelineConsole.Url.Reader

/-!
# Remote backends

A remote backend hands each operation on to the orchestrator or to the notification service behind
the console, as a request with the token of the caller. Terminating all pipelines takes several
requests. Of an error answer only the message reaches the caller, and nothing of an internal error.

## Main definitions

* `Remote`, `Remote.ofSettings` — where the services are
* `Remote.Call`, `Remote.outgoing` — what is asked of a service, and the request for it
* `Remote.ask` — asking and understanding the answer
* `Backend.remote` — the backend
-/

namespace PipelineConsole

open Http (Incoming Network Outgoing)

/-- Where the services behind the console are, and for how many milliseconds it waits for them. -/
structure Remote where
  apiUrl : String
  notificationUrl : Option String
  timeLimit : Nat
  deriving DecidableEq, Repr

namespace Remote

/-- The services that the settings name. -/
def ofSettings (s : Settings) : Remote := ⟨s.apiUrl, s.notificationUrl, s.requestTimeout⟩

/-- A service behind the console. -/
inductive Service where
  | orchestrator
  | notifications
  deriving DecidableEq, Repr

/-- The error of a service that is not there. -/
def unavailable (message : String) : ErrorBody := ⟨503, message⟩

/-- The address of a service, as a text. -/
def base (r : Remote) : Service → Except ErrorBody String
  | .orchestrator => .ok (r.apiUrl ++ "/api/v1")
  | .notifications =>
    match r.notificationUrl with
    | some url => .ok (url ++ "/notifications")
    | none => .error (unavailable "notification service is not configured")

/-- An address with more segments. That the text is no such address is an internal matter. -/
def address (base : String) (segments : List String) : Except ErrorBody Url :=
  match (Url.read base).toOption.bind (·.under? segments) with
  | some url => .ok url
  | none => .error .internal

/-- What is asked of a service: the method, the segments below the address of the service, the
parameters and the document. -/
structure Call where
  service : Service := .orchestrator
  method : Http.Method := .get
  segments : List String
  parameters : List (String × String) := []
  document : Option Json.Value := none

/-- The request for a call. -/
def outgoing (r : Remote) (token : Option String) (c : Call) : Except ErrorBody Outgoing := do
  let url ← address (← r.base c.service) c.segments
  let plain : Outgoing :=
    { method := c.method, url := url.withQuery c.parameters, timeLimit := some r.timeLimit }
  let request := plain.onBehalfOf token
  return (c.document.map request.withDocument).getD request

/-- The error of a request without answer. -/
def failed : Http.Failure → ErrorBody
  | .timedOut => unavailable "backend request timed out"
  | .unreachable => unavailable "backend unavailable"
  | .unsendable | .interrupted => .internal

/-- What the console tells of an error answer. A body that says nothing of the error is as good as
none. -/
def refused (a : Incoming) : ErrorBody :=
  (((a.document? BackendFault.codec).getD {}).toErrorBody a.status).asAnswer

/-- Understands an answer: one of success as `understand` does, another as an error. -/
def understood {α : Type} (understand : Incoming → Except ErrorBody α) :
    Except Http.Failure Incoming → Except ErrorBody α
  | .error f => .error (failed f)
  | .ok a => if a.isSuccess then understand a else .error (refused a)

/-- Sends the request for a call and understands the answer. -/
def ask {σ α : Type} (r : Remote) (n : Network σ) (token : Option String) (o : Occasion) (c : Call)
    (understand : Incoming → Except ErrorBody α) (s : σ) : Except ErrorBody α × σ :=
  match r.outgoing token c with
  | .error e => (.error e, s)
  | .ok request =>
    let (answer, s) := n.send o request s
    (understood understand answer, s)

/-! ### Understanding answers of success -/

/-- An answer that says nothing more. -/
def done (_ : Incoming) : Except ErrorBody Unit := .ok ()

/-- An answer with a document. -/
def document {α : Type} (codec : Json.Codec α) (a : Incoming) : Except ErrorBody α :=
  match a.document? codec with
  | some v => .ok v
  | none => .error .internal

/-- The id of a new pipeline: the one in the answer, or the one that was asked for if the answer has
none. -/
def createdId (requested : String) (a : Incoming) : Except ErrorBody String :=
  let told := do (← (← a.document? .opaqueValue).get? "pipeline_id").asString?
  let id := told.getD requested
  if id.isEmpty then .error .internal else .ok id

/-- The status after an action: the one in the answer, or the one that the action leads to at
first. -/
def statusAfter (action : Action) (a : Incoming) : Except ErrorBody Status :=
  .ok (((a.document? ActionReply.codec).map ActionReply.status).getD action.optimistic)

/-- A batch of dead letters; no content is an empty one. -/
def batch (a : Incoming) : Except ErrorBody (List DeadLetter.Message) :=
  if a.status = 204 then .ok [] else document (.list DeadLetter.Message.codec) a

/-! ### Calls -/

/-- The call for the list of pipelines. -/
def listCall : Call where
  segments := ["pipeline"]

/-- The call for an action. -/
def actionCall (id : String) (action : Action) : Call where
  method := .post
  segments := ["pipeline", id, action.name]

/-- The call for something below a pipeline. -/
def pipelineCall (method : Http.Method) (id : String) (below : List String := [])
    (document : Option Json.Value := none) : Call where
  method
  segments := "pipeline" :: id :: below
  document

/-- A call with a document. -/
def documentCall {α : Type} (segments : List String) (codec : Json.Codec α) (a : α) : Call where
  method := .post
  segments
  document := some (codec.encode a)

/-- A call of the notification service. -/
def notificationCall (method : Http.Method) (segments : List String)
    (parameters : List (String × String) := []) (document : Option Json.Value := none) : Call where
  service := .notifications
  method
  segments
  parameters
  document

variable {σ : Type}

/-- Performs an operation by asking the services. -/
def perform (r : Remote) (n : Network σ) (token : Option String) (o : Occasion) :
    (op : Operation) → σ → Except ErrorBody op.Reply × σ
  | .create config => r.ask n token o (documentCall ["pipeline"] PipelineConfig.codec config)
      (createdId config.id)
  | .list => r.ask n token o listCall (document (.list Pipeline.ListItem.codec))
  | .get id => r.ask n token o (pipelineCall .get id) (document Pipeline.codec)
  | .rename id name =>
    r.ask n token o (pipelineCall .patch id [] (some (RenameRequest.codec.encode { name }))) done
  | .edit id config =>
    r.ask n token o
      (pipelineCall .post id ["edit"] (some (PipelineConfig.codec.encode config))) done
  | .delete id => r.ask n token o (pipelineCall .delete id) done
  | .act id action => r.ask n token o (actionCall id action) (statusAfter action)
  | .terminateAll =>
    Termination.all (r.ask n token o listCall (document (.list Pipeline.ListItem.codec)))
      fun id => r.ask n token o (actionCall id .terminate) (statusAfter .terminate)
  | .health id => r.ask n token o (pipelineCall .get id ["health"]) (document Pipeline.Health.codec)
  | .deadLetters id =>
    r.ask n token o (pipelineCall .get id ["dlq", "state"]) (document DeadLetter.State.codec)
  | .consume id size =>
    let parameters := (size.map fun n => ("batch_size", toString n.toNat)).toList
    r.ask n token o { pipelineCall .get id ["dlq", "consume"] with parameters } batch
  | .purge id => r.ask n token o (pipelineCall .post id ["dlq", "purge"]) done
  | .platform => r.ask n token o { segments := ["platform"] } (document PlatformInfo.codec)
  | .checkFilter request =>
    r.ask n token o (documentCall ["filter", "validate"] FilterRequest.codec request) done
  | .evaluateTransform request =>
    r.ask n token o
      (documentCall ["transform", "expression", "evaluate"] TransformRequest.codec request)
      (document .opaqueValue)
  | .listNotifications query =>
    r.ask n token o (notificationCall .get [] query.pairs) (document (.list Notification.codec))
  | .getNotification id =>
    r.ask n token o (notificationCall .get [id]) (document Notification.codec)
  | .deleteNotification id => r.ask n token o (notificationCall .delete [id]) done
  | .markRead ids =>
    r.ask n token o
      (notificationCall .post ["mark-read"] [] (some (MarkReadRequest.codec.encode { ids })))
      fun a => (document MarkReadReply.codec a).map MarkReadReply.updated

end Remote

/-- The services behind the console as a backend. -/
def Backend.remote {σ : Type} (r : Remote) (n : Network σ) : Backend σ where
  perform := r.perform n

end PipelineConsole
