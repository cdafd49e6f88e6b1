import PipelineConsole.Backend.Operation
import PipelineConsole.Orchestrator.Notifications
import PipelineConsole.Orchestrator.Pipelines

/-!
# The orchestrator performs operations

## Main definitions

* `Orchestrator.platform`, `Orchestrator.checkFilter`, `Orchestrator.evaluateTransform` — the calls
  that need no state
* `Orchestrator.perform` — every operation
-/

namespace PipelineConsole.Orchestrator

open Handler (look commit)

/-- What the in-memory orchestrator tells about itself. -/
def platform : PlatformInfo := ⟨"mock", some "v1"⟩

/-- Checks a filter. -/
def checkFilter (r : FilterRequest) : Except Fault Unit :=
  (Filter.check r.expression r.fields).mapError .invalidFilter

/-- Tries transforms on a sample. -/
def evaluateTransform (r : TransformRequest) : Except Fault Json.Value :=
  if r.kind = TransformRequest.expressionKind then
    (Transform.evalAll r.transforms r.sample).mapError .failedTransform
  else .error .unsupportedTransform

/-- The handler of an operation. -/
def perform (rules : Rules) (o : Occasion) : (op : Operation) → Handler op.Reply
  | .create config => create rules o config
  | .list => look fun s => .ok (s.list o)
  | .get id => look (·.get id)
  | .rename id name => rename o id name
  | .edit id config => edit o id config
  | .delete id => delete id
  | .act id action => act rules o id action
  | .terminateAll => commit (·.terminateAll rules o)
  | .health id => look (·.health o id)
  | .deadLetters id => look (·.deadLetters id)
  | .consume id size => consume o id size
  | .purge id => purge id
  | .platform => pure platform
  | .checkFilter r => look fun _ => checkFilter r
  | .evaluateTransform r => look fun _ => evaluateTransform r
  | .listNotifications q => look fun s => .ok (s.listNotifications q)
  | .getNotification id => look (·.getNotification id)
  | .deleteNotification id => deleteNotification id
  | .markRead ids => commit fun s =>
    let (count, s) := s.markRead ids
    (.ofNat count, s)

end PipelineConsole.Orchestrator
