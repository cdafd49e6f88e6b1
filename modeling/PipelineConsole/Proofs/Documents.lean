import PipelineConsole.Proofs.Backend.Documents
import PipelineConsole.Proofs.Connection.Documents
import PipelineConsole.Proofs.StatusStream.Wire

/-!
# Reading documents again

A document may be written in many ways: as an object or as an array of fields, with members that
nobody knows, with statuses in lower case, with `null` for what is absent, with times of any zone.
What is read of it is the same once it has been written and read again. Only the numbers in opaque
parts need care: a double must survive being written.

## Main definitions

* `Document` — the documents that are both read and written, with `Document.codec`

## Main results

* `Document.read_write` — a document without opaque parts is read back
* `Document.stable_codec`, `Document.read_again` — so is any document that was read
-/

namespace PipelineConsole

open Text.Utf8 (Bytes encode)

/-- The documents that are both read and written. -/
inductive Document where
  | config
  | metadata
  | pipeline
  | listItem
  | health
  | status
  | action
  | rename
  | createReply
  | actionReply
  | terminateAllReply
  | errorBody
  | backendFault
  | severity
  | notification
  | markRead
  | markReadReply
  | fieldSpec
  | filterRequest
  | transform
  | transforms
  | transformRequest
  | platform
  | deadLetter
  | deadLetters
  | clickHouse
  | kafka
  | connectionReply
  | databases
  | tables
  | column
  | schema
  | topics
  | statusChange
  | statusUpdate
  | batchUpdate
  | heartbeat
  | streamFault
  deriving DecidableEq, Repr

namespace Document

/-- What a document tells. -/
abbrev Content : Document → Type
  | config => PipelineConfig
  | metadata => Metadata
  | pipeline => Pipeline
  | listItem => Pipeline.ListItem
  | health => Pipeline.Health
  | status => Status
  | action => Action
  | rename => RenameRequest
  | createReply => CreateReply
  | actionReply => ActionReply
  | terminateAllReply => TerminateAllReply
  | errorBody => ErrorBody
  | backendFault => BackendFault
  | severity => Severity
  | notification => Notification
  | markRead => MarkReadRequest
  | markReadReply => MarkReadReply
  | fieldSpec => FieldSpec
  | filterRequest => FilterRequest
  | transform => Transform
  | transforms => List Transform
  | transformRequest => TransformRequest
  | platform => PlatformInfo
  | deadLetter => DeadLetter.Message
  | deadLetters => DeadLetter.State
  | clickHouse => ClickHouseParams
  | kafka => KafkaParams
  | connectionReply => ConnectionReply
  | databases => DatabasesReply
  | tables => TablesReply
  | column => Column
  | schema => SchemaReply
  | topics => TopicsReply
  | statusChange => StatusChange
  | statusUpdate => StatusChange × Timestamp
  | batchUpdate => List StatusChange × Timestamp
  | heartbeat => Timestamp
  | streamFault => StreamFault × Timestamp

/-- The form of a document. -/
def codec : (d : Document) → Json.Codec d.Content
  | config => PipelineConfig.codec
  | metadata => Metadata.codec
  | pipeline => Pipeline.codec
  | listItem => Pipeline.ListItem.codec
  | health => Pipeline.Health.codec
  | status => Status.codec
  | action => Action.codec
  | rename => RenameRequest.codec
  | createReply => CreateReply.codec
  | actionReply => ActionReply.codec
  | terminateAllReply => TerminateAllReply.codec
  | errorBody => ErrorBody.codec
  | backendFault => BackendFault.codec
  | severity => Severity.codec
  | notification => Notification.codec
  | markRead => MarkReadRequest.codec
  | markReadReply => MarkReadReply.codec
  | fieldSpec => FieldSpec.codec
  | filterRequest => FilterRequest.codec
  | transform => Transform.codec
  | transforms => Transform.listCodec
  | transformRequest => TransformRequest.codec
  | platform => PlatformInfo.codec
  | deadLetter => DeadLetter.Message.codec
  | deadLetters => DeadLetter.State.codec
  | clickHouse => ClickHouseParams.codec
  | kafka => KafkaParams.codec
  | connectionReply => ConnectionReply.codec
  | databases => DatabasesReply.codec
  | tables => TablesReply.codec
  | column => Column.codec
  | schema => SchemaReply.codec
  | topics => TopicsReply.codec
  | statusChange => StatusChange.codec
  | statusUpdate => StatusEvent.statusUpdateCodec
  | batchUpdate => StatusEvent.batchUpdateCodec
  | heartbeat => StatusEvent.heartbeatCodec
  | streamFault => StatusEvent.faultCodec

/-- Whether a document has opaque parts. -/
def hasOpaque : Document → Bool
  | config | pipeline | transformRequest | backendFault => true
  | _ => false

/-- A document without opaque parts is read back, whatever it tells. -/
theorem lawful_codec (d : Document) (h : d.hasOpaque = false) : d.codec.Lawful Json.maxDepth := by
  cases d with
  | config | pipeline | transformRequest | backendFault => cases h
  | metadata => exact Metadata.lawful_codec _
  | listItem => exact Pipeline.ListItem.lawful_codec _
  | health => exact Pipeline.Health.lawful_codec _
  | status => exact Status.lawful_codec _
  | action => exact Action.lawful_codec _
  | rename => exact RenameRequest.lawful_codec _
  | createReply => exact CreateReply.lawful_codec _
  | actionReply => exact ActionReply.lawful_codec _
  | terminateAllReply => exact TerminateAllReply.lawful_codec _
  | errorBody => exact ErrorBody.lawful_codec _
  | severity => exact Severity.lawful_codec _
  | notification => exact Notification.lawful_codec _
  | markRead => exact MarkReadRequest.lawful_codec _
  | markReadReply => exact MarkReadReply.lawful_codec _
  | fieldSpec => exact FieldSpec.lawful_codec _
  | filterRequest => exact FilterRequest.lawful_codec _
  | transform => exact Transform.lawful_codec _
  | transforms => exact Transform.lawful_listCodec _
  | platform => exact PlatformInfo.lawful_codec _
  | deadLetter => exact DeadLetter.Message.lawful_codec _
  | deadLetters => exact DeadLetter.State.lawful_codec _
  | clickHouse => exact ClickHouseParams.lawful_codec _
  | kafka => exact KafkaParams.lawful_codec _
  | connectionReply => exact ConnectionReply.lawful_codec _
  | databases => exact DatabasesReply.lawful_codec _
  | tables => exact TablesReply.lawful_codec _
  | column => exact Column.lawful_codec _
  | schema => exact SchemaReply.lawful_codec _
  | topics => exact TopicsReply.lawful_codec _
  | statusChange => exact StatusChange.lawful_codec _
  | statusUpdate => exact StatusEvent.lawful_statusUpdateCodec _
  | batchUpdate => exact StatusEvent.lawful_batchUpdateCodec _
  | heartbeat => exact StatusEvent.lawful_heartbeatCodec _
  | streamFault => exact StatusEvent.lawful_faultCodec _

/-- One with opaque parts is read back if it was read before. -/
theorem stable_codec (d : Document) : d.codec.Stable Json.maxDepth := by
  cases h : d.hasOpaque with
  | false => exact (d.lawful_codec h).stable
  | true =>
    cases d with
    | config => exact PipelineConfig.stable_codec _
    | pipeline => exact Pipeline.stable_codec _
    | transformRequest => exact TransformRequest.stable_codec _
    | backendFault => exact BackendFault.stable_codec _
    | _ => cases h

/-- The text of a document without opaque parts is read as what the document tells. -/
theorem read_write (d : Document) (h : d.hasOpaque = false) (a : d.Content) :
    d.codec.read (encode (d.codec.write a)) = .ok a :=
  (d.lawful_codec h).read_write (Nat.le_refl Json.maxDepth) a

/-- However a document is written, what is read of it is read again from the text that is written
for it, if the doubles in its opaque parts survive being written. -/
theorem read_again (d : Document) {bytes : Bytes} {a : d.Content}
    (hread : d.codec.read bytes = .ok a) (hdurable : (d.codec.encode a).Durable) :
    d.codec.read (encode (d.codec.write a)) = .ok a :=
  d.stable_codec.read_write_of_read hread hdurable

/-- A pipeline in an unusual form: with a member that nobody knows, a status in lower case, a time
of another zone, an opaque source with its members out of order, and `null` for no join. -/
def unusualPipeline : String :=
  "\x7b\"pipeline_id\":\"p\",\"owner\":[],\"name\":\"n\",\"status\":\"running\"," ++
  "\"created_at\":\"2024-05-01T12:00:00+02:00\",\"updated_at\":\"2024-05-01T10:00:00.5Z\"," ++
  "\"source\":\x7b\"b\":1.50,\"a\":[null,-7]\x7d,\"sink\":\x7b\x7d,\"join\":null\x7d"

/-- The same pipeline as it is written. -/
def usualPipeline : String :=
  "\x7b\"pipeline_id\":\"p\",\"name\":\"n\",\"status\":\"Running\"," ++
  "\"created_at\":\"2024-05-01T10:00:00Z\",\"updated_at\":\"2024-05-01T10:00:00.500Z\"," ++
  "\"source\":\x7b\"a\":[null,-7],\"b\":1.5\x7d,\"sink\":\x7b\x7d," ++
  "\"metadata\":\x7b\"tags\":[]\x7d\x7d"

/-- The unusual form is read as a pipeline that is written in the usual form and read again. -/
theorem unusualPipeline_read_again :
    ∃ p, pipeline.codec.read (encode unusualPipeline) = .ok p ∧
      (pipeline.codec.encode p).Durable ∧ pipeline.codec.write p = usualPipeline ∧
      pipeline.codec.read (encode (pipeline.codec.write p)) = .ok p := by
  have hevaluated : (pipeline.codec.read (encode unusualPipeline)).toOption.map
      (fun p => ((pipeline.codec.encode p).numbers, pipeline.codec.write p)) =
        some ([.int (-7), .float ⟨4609434218613702656⟩], usualPipeline) := by
    decide +kernel
  obtain ⟨p, hp, hwritten⟩ := Option.map_eq_some_iff.1 hevaluated
  obtain ⟨hnumbers, htext⟩ := Prod.mk.inj hwritten
  have hread := toOption_eq_some.1 hp
  have hdurable : (pipeline.codec.encode p).Durable := by
    have hfloat : Json.SurvivesText ⟨4609434218613702656⟩ := by decide +kernel
    intro x hx
    rw [hnumbers] at hx
    obtain rfl : x = ⟨4609434218613702656⟩ := by simpa using hx
    exact hfloat
  exact ⟨p, hread, hdurable, htext, read_again pipeline hread hdurable⟩

end Document

end PipelineConsole
