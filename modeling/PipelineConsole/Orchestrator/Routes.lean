import PipelineConsole.Backend.Answer
import PipelineConsole.Backend.Kind
import PipelineConsole.Http.Route
import PipelineConsole.Orchestrator.Perform

/-!
# The orchestrator's interface

The in-memory orchestrator answers HTTP requests: those of the orchestration interface under
`/api/v1` and those of the notification service under `/notifications`. Nobody needs a token.

## Main definitions

* `Orchestrator.routes` — the endpoints
* `Orchestrator.handle` — the answer to a request
-/

namespace PipelineConsole.Orchestrator

open Http (Method Request Response Route)

/-- The endpoints of the orchestrator. -/
def routes : List (Route Operation.Kind) :=
  let pipeline := ["api", "v1", "pipeline"]
  [.fixed pipeline [(.get, .list), (.post, .create)],
    .around pipeline [] [(.get, .get), (.patch, .rename), (.delete, .delete)],
    .around pipeline ["pause"] [(.post, .act .pause)],
    .around pipeline ["resume"] [(.post, .act .resume)],
    .around pipeline ["stop"] [(.post, .act .stop)],
    .around pipeline ["terminate"] [(.post, .act .terminate)],
    .around pipeline ["edit"] [(.post, .edit)],
    .around pipeline ["health"] [(.get, .health)],
    .around pipeline ["dlq", "state"] [(.get, .deadLetters)],
    .around pipeline ["dlq", "consume"] [(.get, .consume)],
    .around pipeline ["dlq", "purge"] [(.post, .purge)],
    .fixed ["api", "v1", "platform"] [(.get, .platform)],
    .fixed ["api", "v1", "filter", "validate"] [(.post, .checkFilter)],
    .fixed ["api", "v1", "transform", "expression", "evaluate"] [(.post, .evaluateTransform)],
    .fixed ["notifications"] [(.get, .listNotifications)],
    .fixed ["notifications", "mark-read"] [(.post, .markRead)],
    .around ["notifications"] [] [(.get, .getNotification), (.delete, .deleteNotification)]]

/-- The response with a pipeline as it is. -/
def shown (s : Orchestrator) (status : UInt16) (id : String) : Response :=
  match s.get id with
  | .ok p => .ofJson status (Pipeline.codec.encode p)
  | .error f => f.toBackendFault.response

/-- The response to an operation. A new or changed pipeline is shown, and an empty batch is no
content. -/
def respond (s : Orchestrator) : (op : Operation) → op.Reply → Response
  | .create _, id => s.shown 201 id
  | .rename id _, () | .edit id _, () => s.shown 200 id
  | .consume _ _, [] => { status := 204 }
  | op, reply => op.response reply

/-- Performs an operation and answers. -/
def answer (s : Orchestrator) (rules : Rules) (o : Occasion) (op : Operation) :
    Response × Orchestrator :=
  match perform rules o op s with
  | (.ok reply, s) => (s.respond op reply, s)
  | (.error f, s) => (f.toBackendFault.response, s)

/-- The answer to a request and the state after it. -/
def handle (s : Orchestrator) (rules : Rules) (o : Occasion) (r : Request) :
    Response × Orchestrator :=
  match Route.dispatch routes r.method r.path with
  | .unknownPath => ({ status := 404 }, s)
  | .unknownMethod known => ({ status := 405, allow := known }, s)
  | .endpoint kind parameters =>
    match kind.read r parameters (.ok ()) with
    | .error response => (if r.method = .head then response.withoutContent else response, s)
    | .ok op =>
      let (response, s) := s.answer rules o op
      (if r.method = .head then response.withoutContent else response, s)

end PipelineConsole.Orchestrator
