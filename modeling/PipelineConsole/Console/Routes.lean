import PipelineConsole.Backend.Answer
import PipelineConsole.Backend.Basic
import PipelineConsole.Backend.Kind
import PipelineConsole.Connection.Probe
import PipelineConsole.Console.IdList
import PipelineConsole.Console.Settings
import PipelineConsole.Http.Route

/-!
# The console's interface

The console answers HTTP requests under `/api`: operations are handed to a backend, probes to
whoever reaches the servers. If authorization is on, a request without token is refused before
anything is performed. One endpoint answers with a stream of events instead of a document.

## Main definitions

* `Console` — a console with its backend
* `Console.routes` — the endpoints
* `Console.read` — what a request asks for
* `Console.handle` — the answer to a request
-/

namespace PipelineConsole

open Http (Method Request Response Route)

/-- A console: its settings, the backend that performs operations and whoever makes probes. Both
work on a state of one type. -/
structure Console (σ : Type) where
  settings : Settings
  backend : Backend σ
  probe : Occasion → (p : Probe) → σ → Except ErrorBody p.Reply × σ

namespace Console

/-- A kind of probe. -/
inductive ProbeKind where
  | pingClickHouse
  | databases
  | tables
  | columns
  | pingKafka
  | topics
  deriving DecidableEq, Repr

/-- What a route stands for. -/
inductive Endpoint where
  | alive
  | statusStream
  | operation (kind : Operation.Kind)
  | probe (kind : ProbeKind)
  deriving DecidableEq, Repr

/-- The endpoints of the console. -/
def routes : List (Route Endpoint) :=
  let pipeline := ["api", "pipeline"]
  let notifications := ["api", "notifications"]
  [.fixed ["healthz"] [(.get, .alive)],
    .fixed pipeline
      [(.get, .operation .list), (.post, .operation .create), (.delete, .operation .terminateAll)],
    .fixed ["api", "pipeline", "status", "stream"] [(.get, .statusStream)],
    .around pipeline []
      [(.get, .operation .get), (.patch, .operation .rename), (.delete, .operation .delete)],
    .around pipeline ["pause"] [(.post, .operation (.act .pause))],
    .around pipeline ["resume"] [(.post, .operation (.act .resume))],
    .around pipeline ["stop"] [(.post, .operation (.act .stop))],
    .around pipeline ["terminate"] [(.post, .operation (.act .terminate))],
    .around pipeline ["edit"] [(.post, .operation .edit)],
    .around pipeline ["health"] [(.get, .operation .health)],
    .around pipeline ["dlq", "state"] [(.get, .operation .deadLetters)],
    .around pipeline ["dlq", "consume"] [(.get, .operation .consume)],
    .around pipeline ["dlq", "purge"] [(.post, .operation .purge)],
    .fixed ["api", "platform"] [(.get, .operation .platform)],
    .fixed ["api", "filter", "validate"] [(.post, .operation .checkFilter)],
    .fixed ["api", "transform", "expression", "evaluate"] [(.post, .operation .evaluateTransform)],
    .fixed ["api", "clickhouse", "test-connection"] [(.post, .probe .pingClickHouse)],
    .fixed ["api", "clickhouse", "databases"] [(.post, .probe .databases)],
    .fixed ["api", "clickhouse", "tables"] [(.post, .probe .tables)],
    .fixed ["api", "clickhouse", "schema"] [(.post, .probe .columns)],
    .fixed ["api", "kafka", "test-connection"] [(.post, .probe .pingKafka)],
    .fixed ["api", "kafka", "topics"] [(.post, .probe .topics)],
    .fixed notifications [(.get, .operation .listNotifications)],
    .fixed ["api", "notifications", "mark-read"] [(.post, .operation .markRead)],
    .around notifications []
      [(.get, .operation .getNotification), (.delete, .operation .deleteNotification)]]

/-- What a request asks for. -/
inductive Call where
  | alive
  | stream (ids : List String)
  | operation (op : Operation)
  | probe (p : Probe)

/-- The error of a request without token. -/
def unauthorized : ErrorBody := ⟨401, "Missing or invalid Authorization header"⟩

/-- Refuses a request without token if authorization is on. -/
def authorize (settings : Settings) (r : Request) : Except Response Unit :=
  if settings.authEnabled && r.bearer?.isNone then .error unauthorized.response else .ok ()

/-- Reads a probe from a request. -/
def readProbe (kind : ProbeKind) (r : Request) : Except Response Probe :=
  let clickHouse := Operation.Kind.readBody r ClickHouseParams.codec
  let kafka := Operation.Kind.readBody r KafkaParams.codec
  match kind with
  | .pingClickHouse => clickHouse.map .pingClickHouse
  | .databases => clickHouse.map .databases
  | .tables => clickHouse.map .tables
  | .columns => clickHouse.map .columns
  | .pingKafka => kafka.map .pingKafka
  | .topics => kafka.map .topics

/-- Reads the ids of a stream from a request. -/
def readStreamIds (r : Request) : Except Response (List String) := do
  let query ← Operation.Kind.readQuery r [("pipeline_ids", .text)]
  match IdList.read ((Http.Query.text? query "pipeline_ids").getD "") with
  | [] => throw (Probe.badRequest "pipeline_ids is required").response
  | ids => return ids

/-- What a request asks for at an endpoint. -/
def read (settings : Settings) (e : Endpoint) (r : Request) (parameters : List String) :
    Except Response Call :=
  match e with
  | .alive => .ok .alive
  | .statusStream => do
    authorize settings r
    return .stream (← readStreamIds r)
  | .operation kind => return .operation (← kind.read r parameters (authorize settings r))
  | .probe kind => do
    authorize settings r
    return .probe (← readProbe kind r)

/-- A stream of events for a caller: the pipelines whose statuses it tells of, and the token with
which they are checked. -/
structure Watch where
  ids : List String
  token : Option String
  deriving DecidableEq, Repr

/-- The answer to a request: a response, or the beginning of a stream. -/
inductive Answer where
  | response (r : Response)
  | stream (w : Watch)
  deriving Repr

/-- The answer to a `HEAD` request: nothing but the status. -/
def Answer.headOnly : Answer → Answer
  | response r => response r.withoutContent
  | stream _ => response { status := 200 }

/-- The response to a probe. A failed ping is told, but is no failure of the request. -/
def probeResponse : (p : Probe) → Except ErrorBody p.Reply → Response
  | .pingClickHouse _, .ok () => pinged true "Successfully connected to ClickHouse"
  | .pingClickHouse _, .error e => pinged false e.message
  | .databases _, .ok databases =>
    Operation.document DatabasesReply.codec { success := true, databases }
  | .tables _, .ok tables => Operation.document TablesReply.codec { success := true, tables }
  | .columns _, .ok columns => Operation.document SchemaReply.codec { success := true, columns }
  | .pingKafka _, .ok () => pinged true "Successfully connected to Kafka"
  | .pingKafka _, .error e => pinged false e.message
  | .topics _, .ok topics => Operation.document TopicsReply.codec { success := true, topics }
  | .databases _, .error e | .tables _, .error e | .columns _, .error e | .topics _, .error e =>
    e.response
where
  /-- The response to a ping. -/
  pinged (success : Bool) (message : String) : Response :=
    Operation.document ConnectionReply.codec { success, message }

variable {σ : Type}

/-- Performs an operation and answers. A changed pipeline is shown as it is after the change. -/
def answerOperation (c : Console σ) (token : Option String) (o : Occasion) (op : Operation)
    (s : σ) : Response × σ :=
  match c.backend.perform token o op s with
  | (.error e, s) => (e.response, s)
  | (.ok reply, s) =>
    match op.shown? with
    | none => (op.response reply, s)
    | some id =>
      match c.backend.perform token o (.get id) s with
      | (.error e, s) => (e.response, s)
      | (.ok p, s) => (Operation.response (.get id) p, s)

/-- Does what a request asks for and answers. -/
def answer (c : Console σ) (token : Option String) (o : Occasion) (call : Call) (s : σ) :
    Answer × σ :=
  match call with
  | .alive => (.response { status := 200 }, s)
  | .stream ids => (.stream ⟨ids, token⟩, s)
  | .operation op =>
    let (response, s) := c.answerOperation token o op s
    (.response response, s)
  | .probe p =>
    let (reply, s) := c.probe o p s
    (.response (probeResponse p reply), s)

/-- The answer to a request and the state after it. -/
def handle (c : Console σ) (o : Occasion) (r : Request) (s : σ) : Answer × σ :=
  let withHead (a : Answer) : Answer := if r.method = .head then a.headOnly else a
  match Route.dispatch routes r.method r.path with
  | .unknownPath => (.response { status := 404 }, s)
  | .unknownMethod known => (.response { status := 405, allow := known }, s)
  | .endpoint e parameters =>
    match read c.settings e r parameters with
    | .error response => (withHead (.response response), s)
    | .ok call =>
      let (a, s) := c.answer r.bearer? o call s
      (withHead a, s)

/-- Checks the pipelines of a stream, one after the other. -/
def checkAll (c : Console σ) (w : Watch) (o : Occasion) :
    List String → σ → List (String × Except ErrorBody Status) × σ
  | [], s => ([], s)
  | id :: rest, s =>
    let (reply, s) := c.backend.perform w.token o (.health id) s
    let (results, s) := checkAll c w o rest s
    ((id, reply.map Pipeline.Health.status) :: results, s)

/-- The console over the in-memory orchestrator, with demonstration data behind the probes. -/
def inMemory (settings : Settings) (rules : Orchestrator.Rules) : Console Orchestrator where
  settings
  backend := .inMemory rules
  probe _ p s := (p.demo, s)

end Console

end PipelineConsole
