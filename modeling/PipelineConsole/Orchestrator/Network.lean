import PipelineConsole.Http.Exchange
import PipelineConsole.Orchestrator.Routes

/-!
# The orchestrator on a network

## Main definitions

* `Orchestrator.network` — a network where the in-memory orchestrator answers at every address
-/

namespace PipelineConsole.Orchestrator

/-- A network where the in-memory orchestrator answers at every address. Whatever a path names there
is looked for below the root. -/
def network (rules : Rules) : Http.Network Orchestrator where
  exchange o r s :=
    let (response, s) := s.handle rules o r.request
    (.ok (.ofResponse response), s)

end PipelineConsole.Orchestrator
