import PipelineConsole.Backend.Operation
import PipelineConsole.Orchestrator.Perform

/-!
# Backends

A backend performs operations for callers. It keeps a state of some type: the in-memory orchestrator
keeps itself, a backend behind a network the state of what is out there.

## Main definitions

* `Backend` — backends
* `Backend.inMemory` — the in-memory orchestrator as a backend
-/

namespace PipelineConsole

/-- What performs the operations of callers, who may have a token. The reply and the state after the
operation depend on the occasion and the state before it. -/
structure Backend (σ : Type) where
  perform : (token : Option String) → Occasion → (op : Operation) → σ →
    Except ErrorBody op.Reply × σ

/-- The in-memory orchestrator as a backend. It does not look at tokens. -/
def Backend.inMemory (rules : Orchestrator.Rules) : Backend Orchestrator where
  perform _ o op s :=
    let (reply, s) := Orchestrator.perform rules o op s
    (reply.mapError Orchestrator.Fault.toErrorBody, s)

end PipelineConsole
