import PipelineConsole.Connection.Params
import PipelineConsole.DeadLetter.Message
import PipelineConsole.Notification.Basic

/-!
# Demonstration data

What the console shows when no orchestrator is deployed: two notifications, the dead letters of
every new pipeline, and the databases, tables and topics to choose from.

## Main definitions

* `Demo.notifications`, `Demo.deadLetters` — for the service
* `Demo.databases`, `Demo.tables`, `Demo.columns?`, `Demo.topics` — for the connections
-/

namespace PipelineConsole.Demo

/-- The notifications that are there from the start, with the times at which they came in. -/
def notifications (welcomeAt lagAt : Timestamp) : List Notification :=
  [{ id := "9f1c2a7e-6a51-4c38-9d5f-2f3b8e0c1a01"
     pipelineId := none
     severity := .info
     title := "Welcome"
     message := "Mock mode is enabled, no real pipelines are deployed"
     createdAt := welcomeAt
     read := false },
   { id := "4b0d7c11-2e8f-4f6a-a1c4-7d9e3b2f5a02"
     pipelineId := some "demo-dedup"
     severity := .warning
     title := "Consumer lag"
     message := "Ingestor lag exceeded 10000 messages on topic user_events"
     createdAt := lagAt
     read := true }]

/-- The dead letters of a new pipeline. -/
def deadLetters (id : String) : List DeadLetter.Message :=
  [{ component := "ingestor"
     error := "failed to parse message: unexpected end of JSON input"
     body := "\x7b\"event_id\":\"e-1\",\"user_id\":" },
   { component := "sink"
     error := "pipeline " ++ id ++ ": column user_id expects String, got Int64"
     body := "\x7b\"event_id\":\"e-2\",\"user_id\":42\x7d" },
   { component := "join"
     error := "join key field order_id missing"
     body := "\x7b\"event_id\":\"e-3\"\x7d" }]

/-- The databases of the demonstration server. -/
def databases : List String := ["default", "analytics", "system"]

/-- The tables of a database; an unknown one has none. -/
def tables (database : String) : List String :=
  match database with
  | "default" => ["events", "users"]
  | "analytics" => ["orders_enriched", "sessions"]
  | "system" => ["tables", "columns", "parts"]
  | _ => []

/-- The columns of a table, if the table is known. -/
def columns? (database table : String) : Option (List Column) :=
  let columns (cs : List (String × String)) : Option (List Column) :=
    some (cs.map fun (name, type) => ⟨name, type, none⟩)
  match database, table with
  | "default", "events" =>
    columns [("event_id", "String"), ("user_id", "String"),
      ("event_type", "LowCardinality(String)"), ("created_at", "DateTime64(3)")]
  | "default", "users" =>
    columns [("user_id", "String"), ("name", "String"), ("email", "String"),
      ("signed_up_at", "DateTime")]
  | "analytics", "orders_enriched" =>
    columns [("order_id", "UUID"), ("user_id", "String"), ("amount", "Float64"),
      ("currency", "FixedString(3)"), ("ordered_at", "DateTime")]
  | "analytics", "sessions" =>
    columns [("session_id", "String"), ("user_id", "String"), ("duration_ms", "UInt64")]
  | _, _ => none

/-- The topics of the demonstration cluster. -/
def topics : List String := ["user_events", "orders", "payments", "sessions"]

end PipelineConsole.Demo
