import PipelineConsole.Connection.Params
import PipelineConsole.Fault.ErrorBody
import PipelineConsole.Demo

/-!
# Probes of connections

What can be asked of the servers that a pipeline is going to be connected with.

## Main definitions

* `Probe`, `Probe.Reply` — probes and their replies
* `Probe.requireText`, `Probe.requireHost`, `Probe.requireBroker` — what a probe takes
* `Probe.demo` — the probes on demonstration data
-/

namespace PipelineConsole

/-- What can be asked of a server. -/
inductive Probe where
  | pingClickHouse (params : ClickHouseParams)
  | databases (params : ClickHouseParams)
  | tables (params : ClickHouseParams)
  | columns (params : ClickHouseParams)
  | pingKafka (params : KafkaParams)
  | topics (params : KafkaParams)
  deriving DecidableEq, Repr

namespace Probe

/-- The type of the reply to a probe. -/
abbrev Reply : Probe → Type
  | pingClickHouse _ | pingKafka _ => Unit
  | databases _ | tables _ | topics _ => List String
  | columns _ => List Column

/-- The error of a request that lacks something. -/
def badRequest (message : String) : ErrorBody := ⟨400, message⟩

/-- A text that is not blank, without the blanks around it. -/
def requireText (name : String) (value : Option String) : Except ErrorBody String :=
  match value.map Text.trim with
  | none | some "" => .error (badRequest (name ++ " is required"))
  | some s => .ok s

/-- Refuses a blank host. -/
def requireHost (p : ClickHouseParams) : Except ErrorBody Unit :=
  if Text.isBlankText p.host then .error (badRequest "host is required") else .ok ()

/-- Refuses a list of blank brokers only. -/
def requireBroker (p : KafkaParams) : Except ErrorBody Unit :=
  if p.brokers.all Text.isBlankText then .error (badRequest "at least one broker is required")
  else .ok ()

/-- The probes on demonstration data. -/
def demo : (p : Probe) → Except ErrorBody p.Reply
  | pingClickHouse p => requireHost p
  | databases p => do
    requireHost p
    return Demo.databases
  | tables p => do
    let database ← requireText "database" p.database
    return Demo.tables database
  | columns p => do
    let database ← requireText "database" p.database
    let table ← requireText "table" p.table
    match Demo.columns? database table with
    | some found => return found
    | none => throw (badRequest ("table " ++ database ++ "." ++ table ++ " does not exist"))
  | pingKafka p => requireBroker p
  | topics p => do
    requireBroker p
    return Demo.topics

end Probe

end PipelineConsole
