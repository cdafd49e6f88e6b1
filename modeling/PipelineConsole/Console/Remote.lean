import PipelineConsole.Backend.Remote
import PipelineConsole.Connection.Live
import PipelineConsole.Console.Routes

/-!
# The console over a network

## Main definitions

* `Console.remote` — the console in front of the services that its settings name
-/

namespace PipelineConsole

/-- The console in front of the services that its settings name, with live probes. -/
def Console.remote {σ : Type} (settings : Settings) (n : Http.Network σ)
    (cluster : Kafka.Cluster σ) : Console σ where
  settings
  backend := .remote (.ofSettings settings) n
  probe := Probe.live n cluster settings.requestTimeout

end PipelineConsole
