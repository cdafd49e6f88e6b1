import PipelineConsole.Pipeline.Config
import PipelineConsole.Pipeline.Status

/-!
# Pipelines

A pipeline is a configuration with a status and the times of its creation and its last change.

## Main definitions

* `Pipeline`, `Pipeline.ofConfig`, `Pipeline.applyConfig` — pipelines and how they come about
* `Pipeline.ListItem`, `Pipeline.Health` — what is told about a pipeline
* `CreateReply`, `ActionReply`, `TerminateAllReply`, `RenameRequest` — the documents of the calls
-/

namespace PipelineConsole

/-- A pipeline. -/
structure Pipeline where
  id : String
  name : String
  status : Status
  createdAt : Timestamp
  updatedAt : Timestamp
  source : Json.Value
  sink : Json.Value
  join : Option Json.Value
  filter : Option Json.Value
  transformation : Option Json.Value
  schema : Option Json.Value
  metadata : Metadata

namespace Pipeline

/-- The form in documents. -/
def codec : Json.Codec Pipeline :=
  (Json.Codec.record "Pipeline"
    (.cons (.required "pipeline_id" .text) <|
      .cons (.required "name" .text) <|
      .cons (.required "status" Status.codec) <|
      .cons (.required "created_at" .timestamp) <|
      .cons (.required "updated_at" .timestamp) <|
      .cons (.required "source" .opaqueValue) <|
      .cons (.required "sink" .opaqueValue) <|
      .cons (.omittable "join" .opaqueValue) <|
      .cons (.omittable "filter" .opaqueValue) <|
      .cons (.omittable "stateless_transformation" .opaqueValue) <|
      .cons (.omittable "schema" .opaqueValue) <|
      .cons (.withDefault "metadata" Metadata.codec {}) .done)).iso
    (fun (id, name, status, createdAt, updatedAt, source, sink, join, filter, transformation,
        schema, metadata, _) =>
      ⟨id, name, status, createdAt, updatedAt, source, sink, join, filter, transformation, schema,
        metadata⟩)
    (fun p => (p.id, p.name, p.status, p.createdAt, p.updatedAt, p.source, p.sink, p.join, p.filter,
      p.transformation, p.schema, p.metadata, ()))

/-- A new pipeline with the given configuration. -/
def ofConfig (c : PipelineConfig) (status : Status) (now : Timestamp) : Pipeline where
  id := c.id
  name := c.name
  status
  createdAt := now
  updatedAt := now
  source := c.source
  sink := c.sink
  join := c.join
  filter := c.filter
  transformation := c.transformation
  schema := c.schema
  metadata := c.metadata

/-- The pipeline with another configuration; its id, status and time of creation stay. -/
def applyConfig (p : Pipeline) (c : PipelineConfig) (now : Timestamp) : Pipeline :=
  { p with
    name := c.name
    source := c.source
    sink := c.sink
    join := c.join
    filter := c.filter
    transformation := c.transformation
    schema := c.schema
    metadata := c.metadata
    updatedAt := now }

/-- The configuration of a pipeline. -/
def config (p : Pipeline) : PipelineConfig :=
  ⟨p.id, p.name, p.source, p.sink, p.join, p.filter, p.transformation, p.schema, p.metadata⟩

/-- A pipeline in a list. -/
structure ListItem where
  id : String
  name : String
  status : Status
  createdAt : Timestamp
  updatedAt : Timestamp
  deriving DecidableEq, Repr

/-- The form in documents. -/
def ListItem.codec : Json.Codec ListItem :=
  (Json.Codec.record "PipelineListItem"
    (.cons (.required "pipeline_id" .text) <|
      .cons (.required "name" .text) <|
      .cons (.required "status" Status.codec) <|
      .cons (.required "created_at" .timestamp) <|
      .cons (.required "updated_at" .timestamp) .done)).iso
    (fun (id, name, status, createdAt, updatedAt, _) => ⟨id, name, status, createdAt, updatedAt⟩)
    (fun p => (p.id, p.name, p.status, p.createdAt, p.updatedAt, ()))

/-- The entry of a pipeline in a list. -/
def listItem (p : Pipeline) : ListItem := ⟨p.id, p.name, p.status, p.createdAt, p.updatedAt⟩

/-- What a health check tells of a pipeline. -/
structure Health where
  id : String
  name : String
  status : Status
  createdAt : Timestamp
  updatedAt : Timestamp
  deriving DecidableEq, Repr

/-- The form in documents. -/
def Health.codec : Json.Codec Health :=
  (Json.Codec.record "PipelineHealth"
    (.cons (.required "pipeline_id" .text) <|
      .cons (.required "pipeline_name" .text) <|
      .cons (.required "overall_status" Status.codec) <|
      .cons (.required "created_at" .timestamp) <|
      .cons (.required "updated_at" .timestamp) .done)).iso
    (fun (id, name, status, createdAt, updatedAt, _) => ⟨id, name, status, createdAt, updatedAt⟩)
    (fun h => (h.id, h.name, h.status, h.createdAt, h.updatedAt, ()))

end Pipeline

/-- The request for another name. -/
structure RenameRequest where
  name : String
  deriving DecidableEq, Repr

/-- The form in documents. -/
def RenameRequest.codec : Json.Codec RenameRequest :=
  (Json.Codec.record "UpdatePipelineNameParams" (.cons (.required "name" .text) .done)).iso
    (fun (name, _) => ⟨name⟩) (fun r => (r.name, ()))

/-- The answer to the creation of a pipeline. -/
structure CreateReply where
  success : Bool := true
  id : String
  status : String := "active"
  deriving DecidableEq, Repr

/-- The form in documents. -/
def CreateReply.codec : Json.Codec CreateReply :=
  (Json.Codec.record "CreatePipelineResponse"
    (.cons (.required "success" .bool) <|
      .cons (.required "pipeline_id" .text) <|
      .cons (.required "status" .text) .done)).iso
    (fun (success, id, status, _) => ⟨success, id, status⟩)
    (fun r => (r.success, r.id, r.status, ()))

/-- The answer to an action. -/
structure ActionReply where
  success : Bool := true
  id : String
  status : Status
  deriving DecidableEq, Repr

/-- The form in documents. -/
def ActionReply.codec : Json.Codec ActionReply :=
  (Json.Codec.record "PipelineActionResponse"
    (.cons (.required "success" .bool) <|
      .cons (.required "pipeline_id" .text) <|
      .cons (.required "status" Status.codec) .done)).iso
    (fun (success, id, status, _) => ⟨success, id, status⟩)
    (fun r => (r.success, r.id, r.status, ()))

/-- The answer to the termination of all pipelines. -/
structure TerminateAllReply where
  success : Bool := true
  terminated : List String
  deriving DecidableEq, Repr

/-- The form in documents. -/
def TerminateAllReply.codec : Json.Codec TerminateAllReply :=
  (Json.Codec.record "TerminateAllResponse"
    (.cons (.required "success" .bool) <|
      .cons (.required "terminated" (.list .text)) .done)).iso
    (fun (success, terminated, _) => ⟨success, terminated⟩)
    (fun r => (r.success, r.terminated, ()))

end PipelineConsole
