import PipelineConsole.Connection.Probe

/-!
# Kafka clusters

A cluster is reached with settings under the names that Kafka has for them. It knows its topics;
those that start with two low lines are its own and of no use to a pipeline.

## Main definitions

* `Kafka.settings` — the settings for a cluster
* `Kafka.Cluster` — whoever reaches clusters
* `Kafka.topics` — the topics of a cluster
-/

namespace PipelineConsole.Kafka

/-- The settings for a cluster, in which every wait has a limit in milliseconds. -/
def settings (timeLimit : Nat) (p : KafkaParams) : List (String × String) :=
  let optional (name : String) (value : Option String) : List (String × String) :=
    (value.map fun v => (name, v)).toList
  [("bootstrap.servers", String.intercalate "," p.brokers),
    ("socket.timeout.ms", toString timeLimit)] ++
    optional "security.protocol" p.securityProtocol ++
    optional "sasl.mechanisms" p.saslMechanism ++ optional "sasl.username" p.username ++
    optional "sasl.password" p.password

/-- Whoever reaches clusters: with settings, the names of all topics or the reason why there are
none. -/
structure Cluster (σ : Type) where
  topics : List (String × String) → σ → Except String (List String) × σ

/-- A cluster that nobody reaches. -/
def Cluster.deserted {σ : Type} : Cluster σ where
  topics _ s := (.error "no broker can be reached", s)

/-- Whether a topic belongs to the cluster itself. -/
def isInternal (topic : String) : Bool := "__".toList.isPrefixOf topic.toList

/-- The topics of a cluster. -/
def topics {σ : Type} (c : Cluster σ) (timeLimit : Nat) (p : KafkaParams) (s : σ) :
    Except ErrorBody (List String) × σ :=
  match Probe.requireBroker p with
  | .error e => (.error e, s)
  | .ok () =>
    match c.topics (settings timeLimit p) s with
    | (.ok names, s) => (.ok (names.filter (!isInternal ·)), s)
    | (.error cause, s) =>
      (.error (Probe.badRequest ("failed to connect to Kafka: " ++ cause)), s)

end PipelineConsole.Kafka
