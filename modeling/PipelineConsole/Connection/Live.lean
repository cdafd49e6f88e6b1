import PipelineConsole.Connection.ClickHouse
import PipelineConsole.Connection.Kafka

/-!
# Live probes

Probes of the servers that are really there.

## Main definitions

* `Probe.live` — probes over a network
-/

namespace PipelineConsole.Probe

open Http (Network)

variable {σ : Type}

/-- Probes over a network. What a statement needs is looked for before the host is. -/
def live (n : Network σ) (cluster : Kafka.Cluster σ) (timeLimit : Nat) (o : Occasion) :
    (p : Probe) → σ → Except ErrorBody p.Reply × σ
  | pingClickHouse p, s =>
    let (result, s) := ClickHouse.execute n timeLimit o p .ping s
    (result.map fun _ => (), s)
  | databases p, s => ClickHouse.rows n timeLimit ClickHouse.nameCodec o p .databases s
  | tables p, s =>
    match requireText "database" p.database with
    | .error e => (.error e, s)
    | .ok database => ClickHouse.rows n timeLimit ClickHouse.nameCodec o p (.tables database) s
  | columns p, s =>
    match requireText "database" p.database, requireText "table" p.table with
    | .error e, _ | _, .error e => (.error e, s)
    | .ok database, .ok table =>
      ClickHouse.rows n timeLimit ClickHouse.columnCodec o p (.columns database table) s
  | pingKafka p, s =>
    let (names, s) := Kafka.topics cluster timeLimit p s
    (names.map fun _ => (), s)
  | topics p, s => Kafka.topics cluster timeLimit p s

end PipelineConsole.Probe
