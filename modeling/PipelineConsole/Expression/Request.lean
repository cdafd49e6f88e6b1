import PipelineConsole.Json.Record

/-!
# Requests about expressions

The documents by which a filter is checked and transforms are tried on a sample.

## Main definitions

* `FieldSpec`, `FilterRequest` — a filter and the fields that it may name
* `Transform`, `TransformRequest` — transforms and the sample to try them on
* `PlatformInfo` — what is told about the orchestrator
-/

namespace PipelineConsole

/-- A field of the messages of a stream. -/
structure FieldSpec where
  name : String
  type : String
  deriving DecidableEq, Repr

/-- The form in documents. -/
def FieldSpec.codec : Json.Codec FieldSpec :=
  (Json.Codec.record "StreamDataField"
    (.cons (.required "field_name" .text) <| .cons (.required "field_type" .text) .done)).iso
    (fun (name, type, _) => ⟨name, type⟩) (fun f => (f.name, f.type, ()))

/-- The request to check a filter. -/
structure FilterRequest where
  expression : String
  fields : List FieldSpec := []
  deriving DecidableEq, Repr

/-- The form in documents. -/
def FilterRequest.codec : Json.Codec FilterRequest :=
  (Json.Codec.record "FilterValidationRequest"
    (.cons (.required "expression" .text) <|
      .cons (.withDefault "fields" (.list FieldSpec.codec) []) .done)).iso
    (fun (expression, fields, _) => ⟨expression, fields⟩) (fun r => (r.expression, r.fields, ()))

/-- An expression with the name and the type of its result. -/
structure Transform where
  expression : String
  outputName : String
  outputType : String
  deriving DecidableEq, Repr

/-- The form in documents. -/
def Transform.codec : Json.Codec Transform :=
  (Json.Codec.record "Transform"
    (.cons (.required "expression" .text) <|
      .cons (.required "output_name" .text) <|
      .cons (.required "output_type" .text) .done)).iso
    (fun (expression, outputName, outputType, _) => ⟨expression, outputName, outputType⟩)
    (fun t => (t.expression, t.outputName, t.outputType, ()))

/-- The transforms to try, as a document of its own. -/
def Transform.listCodec : Json.Codec (List Transform) :=
  (Json.Codec.record "TransformConfig"
    (.cons (.withDefault "transform" (.list Transform.codec) []) .done)).iso
    (fun (transforms, _) => transforms) (fun transforms => (transforms, ()))

/-- The request to try transforms on a sample. -/
structure TransformRequest where
  kind : String
  transforms : List Transform := []
  sample : Json.Value

/-- The only kind of transform that can be tried. -/
def TransformRequest.expressionKind : String := "expr_lang_transform"

/-- The form in documents. -/
def TransformRequest.codec : Json.Codec TransformRequest :=
  (Json.Codec.record "TransformEvaluationRequest"
    (.cons (.required "type" .text) <|
      .cons (.withDefault "config" Transform.listCodec []) <|
      .cons (.required "sample" .opaqueValue) .done)).iso
    (fun (kind, transforms, sample, _) => ⟨kind, transforms, sample⟩)
    (fun r => (r.kind, r.transforms, r.sample, ()))

/-- What is told about the orchestrator. -/
structure PlatformInfo where
  orchestrator : String
  apiVersion : Option String := none
  deriving DecidableEq, Repr

/-- The form in documents. -/
def PlatformInfo.codec : Json.Codec PlatformInfo :=
  (Json.Codec.record "PlatformInfo"
    (.cons (.required "orchestrator" .text) <|
      .cons (.omittable "api_version" .text) .done)).iso
    (fun (orchestrator, apiVersion, _) => ⟨orchestrator, apiVersion⟩)
    (fun p => (p.orchestrator, p.apiVersion, ()))

end PipelineConsole
