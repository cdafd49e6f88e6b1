import PipelineConsole.Json.Record

/-!
# Connection parameters

How to reach a ClickHouse server or a Kafka cluster, and the answers of the connection checks.

## Main definitions

* `ClickHouseParams`, `KafkaParams` — parameters
* `ConnectionReply`, `DatabasesReply`, `TablesReply`, `SchemaReply`, `TopicsReply` — answers
-/

namespace PipelineConsole

/-- How to reach a ClickHouse server. -/
structure ClickHouseParams where
  host : String
  httpPort : UInt16 := 8123
  username : String := "default"
  password : String := ""
  useTls : Bool := false
  database : Option String := none
  table : Option String := none
  deriving DecidableEq, Repr

/-- The form in documents. -/
def ClickHouseParams.codec : Json.Codec ClickHouseParams :=
  (Json.Codec.record "ClickhouseConnectionParams"
    (.cons (.required "host" .text) <|
      .cons (.withDefault "http_port" .uint16 8123) <|
      .cons (.withDefault "username" .text "default") <|
      .cons (.withDefault "password" .text "") <|
      .cons (.withDefault "use_ssl" .bool false) <|
      .cons (.optional "database" .text) <|
      .cons (.optional "table" .text) .done)).iso
    (fun (host, httpPort, username, password, useTls, database, table, _) =>
      ⟨host, httpPort, username, password, useTls, database, table⟩)
    (fun p => (p.host, p.httpPort, p.username, p.password, p.useTls, p.database, p.table, ()))

/-- How to reach a Kafka cluster. -/
structure KafkaParams where
  brokers : List String
  securityProtocol : Option String := none
  saslMechanism : Option String := none
  username : Option String := none
  password : Option String := none
  deriving DecidableEq, Repr

/-- The form in documents. -/
def KafkaParams.codec : Json.Codec KafkaParams :=
  (Json.Codec.record "KafkaConnectionParams"
    (.cons (.required "brokers" (.list .text)) <|
      .cons (.optional "security_protocol" .text) <|
      .cons (.optional "sasl_mechanism" .text) <|
      .cons (.optional "username" .text) <|
      .cons (.optional "password" .text) .done)).iso
    (fun (brokers, securityProtocol, saslMechanism, username, password, _) =>
      ⟨brokers, securityProtocol, saslMechanism, username, password⟩)
    (fun p => (p.brokers, p.securityProtocol, p.saslMechanism, p.username, p.password, ()))

/-- The answer to a connection check. -/
structure ConnectionReply where
  success : Bool
  message : String
  deriving DecidableEq, Repr

/-- The form in documents. -/
def ConnectionReply.codec : Json.Codec ConnectionReply :=
  (Json.Codec.record "ConnectionTestResponse"
    (.cons (.required "success" .bool) <| .cons (.required "message" .text) .done)).iso
    (fun (success, message, _) => ⟨success, message⟩) (fun r => (r.success, r.message, ()))

/-- The databases of a server. -/
structure DatabasesReply where
  success : Bool
  databases : List String
  deriving DecidableEq, Repr

/-- The form in documents. -/
def DatabasesReply.codec : Json.Codec DatabasesReply :=
  (Json.Codec.record "DatabasesResponse"
    (.cons (.required "success" .bool) <| .cons (.required "databases" (.list .text)) .done)).iso
    (fun (success, databases, _) => ⟨success, databases⟩) (fun r => (r.success, r.databases, ()))

/-- The tables of a database. -/
structure TablesReply where
  success : Bool
  tables : List String
  deriving DecidableEq, Repr

/-- The form in documents. -/
def TablesReply.codec : Json.Codec TablesReply :=
  (Json.Codec.record "TablesResponse"
    (.cons (.required "success" .bool) <| .cons (.required "tables" (.list .text)) .done)).iso
    (fun (success, tables, _) => ⟨success, tables⟩) (fun r => (r.success, r.tables, ()))

/-- A column of a table. -/
structure Column where
  name : String
  type : String
  default : Option String := none
  deriving DecidableEq, Repr

/-- The form in documents. -/
def Column.codec : Json.Codec Column :=
  (Json.Codec.record "ColumnSchema"
    (.cons (.required "name" .text) <|
      .cons (.required "type" .text) <|
      .cons (.omittable "default_expression" .text) .done)).iso
    (fun (name, type, default, _) => ⟨name, type, default⟩)
    (fun c => (c.name, c.type, c.default, ()))

/-- The columns of a table. -/
structure SchemaReply where
  success : Bool
  columns : List Column
  deriving DecidableEq, Repr

/-- The form in documents. -/
def SchemaReply.codec : Json.Codec SchemaReply :=
  (Json.Codec.record "TableSchemaResponse"
    (.cons (.required "success" .bool) <|
      .cons (.required "columns" (.list Column.codec)) .done)).iso
    (fun (success, columns, _) => ⟨success, columns⟩) (fun r => (r.success, r.columns, ()))

/-- The topics of a cluster. -/
structure TopicsReply where
  success : Bool
  topics : List String
  deriving DecidableEq, Repr

/-- The form in documents. -/
def TopicsReply.codec : Json.Codec TopicsReply :=
  (Json.Codec.record "TopicsResponse"
    (.cons (.required "success" .bool) <| .cons (.required "topics" (.list .text)) .done)).iso
    (fun (success, topics, _) => ⟨success, topics⟩) (fun r => (r.success, r.topics, ()))

end PipelineConsole
