import PipelineConsole.Connection.Probe
import PipelineConsole.Http.Exchange
import PipelineConsole.Url.Reader

/-!
# ClickHouse over HTTP

A statement is the body of a request, and the rows of its result come back as a document. Names
within a statement are quoted, so that no name can change what the statement does.

## Main definitions

* `ClickHouse.quote`, `ClickHouse.Statement` — statements
* `ClickHouse.endpoint` — the address of a server
* `ClickHouse.execute`, `ClickHouse.rows` — statements and their results
-/

namespace PipelineConsole.ClickHouse

open Http (Incoming Network Outgoing)

/-! ### Statements -/

/-- A character of a quoted name. -/
def quoteChar (c : Char) : List Char := if c = '\\' ∨ c = '\x60' then ['\\', c] else [c]

/-- A name between backquotes. Backslashes and backquotes within it stand after a backslash. -/
def quote (name : String) : String := "`" ++ .ofList (name.toList.flatMap quoteChar) ++ "`"

/-- What a server is asked to do. -/
inductive Statement where
  | ping
  | databases
  | tables (database : String)
  | columns (database table : String)
  deriving DecidableEq, Repr

/-- The clause that asks for rows as a document. -/
def asDocument (statement : String) : String := statement ++ " FORMAT JSON"

/-- The text of a statement. -/
def Statement.text : Statement → String
  | ping => "SELECT 1"
  | databases => asDocument "SHOW DATABASES"
  | tables database => asDocument ("SHOW TABLES FROM " ++ quote database)
  | columns database table =>
    asDocument ("DESCRIBE TABLE " ++ quote database ++ "." ++ quote table)

/-! ### Addresses -/

/-- A text without what it starts with, as often as it does; `start` is not empty. -/
def withoutStart (start cs : List Char) : List Char :=
  if h : start ≠ [] ∧ start <+: cs then
    have shorter : cs.length - start.length < cs.length := by
      have positive := List.length_pos_iff.2 h.1
      have fits := h.2.length_le
      grind
    withoutStart start (cs.drop start.length)
  else cs
termination_by cs.length

/-- The name of a host, without a scheme in front of it and slashes behind it. -/
def hostName (host : String) : String :=
  let cs := (Text.trim host).toList
  let name := withoutStart "http://".toList (withoutStart "https://".toList cs)
  Text.dropEnd '/' (.ofList name)

/-- The address of a server. -/
def endpoint (p : ClickHouseParams) : String :=
  (if p.useTls then "https" else "http") ++ "://" ++ hostName p.host ++ ":" ++
    toString p.httpPort.toNat ++ "/"

/-- The request for a statement. -/
def outgoing (timeLimit : Nat) (p : ClickHouseParams) (statement : Statement) :
    Except Http.Failure Outgoing :=
  match Url.read (endpoint p) with
  | .error _ => .error .unsendable
  | .ok url =>
    .ok {
      method := .post
      url
      headers := [("x-clickhouse-user", p.username), ("x-clickhouse-key", p.password)]
      body := Text.Utf8.encode statement.text
      timeLimit := some timeLimit }

/-! ### Results -/

/-- What goes wrong with a statement. -/
inductive Fault where
  | unreached (cause : Http.Failure)
  | unread (cause : Http.Failure)
  | refused (status : UInt16) (text : String)
  | unexpected (cause : Json.ReadError)
  deriving DecidableEq, Repr

/-- The wording of a fault. -/
def Fault.message : Fault → String
  | .unreached cause => "failed to connect to ClickHouse: " ++ cause.message
  | .unread cause => "failed to read ClickHouse response: " ++ cause.message
  | .refused status text => "ClickHouse answered " ++ (ErrorBody.mk status text).described
  | .unexpected .malformed => "unexpected ClickHouse response: malformed document"
  | .unexpected (.mismatch _ cause) => "unexpected ClickHouse response: " ++ cause.message

/-- The error that a caller is told. -/
def Fault.toErrorBody (f : Fault) : ErrorBody := Probe.badRequest f.message

/-- The text of an answer, which must tell of success. -/
def result (answer : Except Http.Failure Incoming) : Except Fault String := do
  let a ← answer.mapError .unreached
  let text := Text.Utf8.decodeLenient (← a.body.mapError .unread)
  if a.isSuccess then return text else throw (.refused a.status (Text.trim text))

variable {σ : Type}

/-- Executes a statement. -/
def execute (n : Network σ) (timeLimit : Nat) (o : Occasion) (p : ClickHouseParams)
    (statement : Statement) (s : σ) : Except ErrorBody String × σ :=
  match Probe.requireHost p with
  | .error e => (.error e, s)
  | .ok () =>
    match outgoing timeLimit p statement with
    | .error f => (.error (Fault.unreached f).toErrorBody, s)
    | .ok request =>
      let (answer, s) := n.send o request s
      ((result answer).mapError Fault.toErrorBody, s)

/-- The form of a result with rows. -/
def rowsCodec {α : Type} (row : Json.Codec α) : Json.Codec (List α) :=
  (Json.Codec.record "JsonRows" (.cons (.required "data" (.list row)) .done)).iso
    (fun (rows, _) => rows) (fun rows => (rows, ()))

/-- The form of a row with a name. -/
def nameCodec : Json.Codec String :=
  (Json.Codec.record "NameRow" (.cons (.required "name" .text) .done)).iso
    (fun (name, _) => name) (fun name => (name, ()))

/-- The form of a row that describes a column. A column without default has the empty text as its
default expression. -/
def columnCodec : Json.Codec Column :=
  (Json.Codec.record "DescribeRow"
    (.cons (.required "name" .text) <|
      .cons (.required "type" .text) <|
      .cons (.withDefault "default_expression" .text "") .done)).iso
    (fun (name, type, default, _) => ⟨name, type, if default.isEmpty then none else some default⟩)
    (fun c => (c.name, c.type, c.default.getD "", ()))

/-- Executes a statement and reads the rows of its result. -/
def rows {α : Type} (n : Network σ) (timeLimit : Nat) (row : Json.Codec α) (o : Occasion)
    (p : ClickHouseParams) (statement : Statement) (s : σ) : Except ErrorBody (List α) × σ :=
  let (result, s) := execute n timeLimit o p statement s
  (result >>= fun text =>
    ((rowsCodec row).read (Text.Utf8.encode text)).mapError fun e =>
      (Fault.unexpected e).toErrorBody, s)

end PipelineConsole.ClickHouse
