import PipelineConsole.Json.Record

/-!
# Pipeline configurations

A configuration names a pipeline and describes its stages. The stages are opaque documents; only the
structure that every pipeline needs is checked.

## Main definitions

* `Metadata`, `PipelineConfig` — configurations
* `ConfigError`, `PipelineConfig.check` — the structural checks
-/

namespace PipelineConsole

/-- What a user notes about a pipeline. -/
structure Metadata where
  tags : List String := []
  deriving DecidableEq, Repr

/-- The form in documents. -/
def Metadata.codec : Json.Codec Metadata :=
  (Json.Codec.record "PipelineMetadata"
    (.cons (.withDefault "tags" (.list .text) []) .done)).iso
    (fun (tags, _) => ⟨tags⟩) (fun m => (m.tags, ()))

/-- The configuration of a pipeline. -/
structure PipelineConfig where
  id : String := ""
  name : String
  source : Json.Value
  sink : Json.Value
  join : Option Json.Value := none
  filter : Option Json.Value := none
  transformation : Option Json.Value := none
  schema : Option Json.Value := none
  metadata : Metadata := {}

namespace PipelineConfig

/-- The form in documents. -/
def codec : Json.Codec PipelineConfig :=
  (Json.Codec.record "PipelineConfig"
    (.cons (.withDefault "pipeline_id" .text "") <|
      .cons (.required "name" .text) <|
      .cons (.required "source" .opaqueValue) <|
      .cons (.required "sink" .opaqueValue) <|
      .cons (.omittable "join" .opaqueValue) <|
      .cons (.omittable "filter" .opaqueValue) <|
      .cons (.omittable "stateless_transformation" .opaqueValue) <|
      .cons (.omittable "schema" .opaqueValue) <|
      .cons (.withDefault "metadata" Metadata.codec {}) .done)).iso
    (fun (id, name, source, sink, join, filter, transformation, schema, metadata, _) =>
      ⟨id, name, source, sink, join, filter, transformation, schema, metadata⟩)
    (fun c => (c.id, c.name, c.source, c.sink, c.join, c.filter, c.transformation, c.schema,
      c.metadata, ()))

end PipelineConfig

/-- What is wrong with the structure of a configuration. -/
inductive ConfigError where
  | blankName
  | topicsNotArray
  | noTopic
  | tooManyTopics
  | sinkNotObject
  | joinWithoutTwoTopics
  deriving DecidableEq, Repr

/-- The wording of an error. -/
def ConfigError.message : ConfigError → String
  | .blankName => "pipeline name must not be empty"
  | .topicsNotArray => "source.topics must be an array"
  | .noTopic => "source must declare at least one topic"
  | .tooManyTopics => "pipeline can have a maximum of 2 sources and 1 sink"
  | .sinkNotObject => "sink must be an object"
  | .joinWithoutTwoTopics => "join requires exactly 2 source topics"

namespace PipelineConfig

/-- The topics that the source declares. -/
def topics? (c : PipelineConfig) : Option (List Json.Value) :=
  c.source.get? "topics" >>= Json.Value.asArray?

/-- Whether the join is switched on. -/
def joinEnabled (c : PipelineConfig) : Bool :=
  (c.join >>= (·.get? "enabled") >>= Json.Value.asBool?).getD false

/-- The structural checks, in the order in which a failure is told. -/
def check (c : PipelineConfig) : Except ConfigError Unit :=
  if Text.isBlankText c.name then .error .blankName
  else
    match c.topics? with
    | none => .error .topicsNotArray
    | some topics =>
      if topics.length = 0 then .error .noTopic
      else if 2 < topics.length then .error .tooManyTopics
      else if !c.sink.isObject then .error .sinkNotObject
      else if c.joinEnabled && topics.length ≠ 2 then .error .joinWithoutTwoTopics
      else .ok ()

end PipelineConfig

end PipelineConsole
