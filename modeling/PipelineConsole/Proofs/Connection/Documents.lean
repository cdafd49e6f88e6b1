import PipelineConsole.Connection.Params
import PipelineConsole.Proofs.Json.Codec

/-!
# Documents about connections

The parameters of connections and the answers to connection checks are read back as they were
written.

## Main results

* `ClickHouseParams.lawful_codec`, `KafkaParams.lawful_codec` — parameters
* `ConnectionReply.lawful_codec`, `SchemaReply.lawful_codec`, … — answers
-/

namespace PipelineConsole

open Json (Codec Field)

variable (depth : Nat)

theorem ClickHouseParams.lawful_codec : ClickHouseParams.codec.Lawful (depth + 1) :=
  Codec.lawful_iso
    (Codec.lawful_record _ <|
      .cons (Field.lawful_required _ Codec.lawful_text) (by decide) <|
      .cons (Field.lawful_withDefault _ _ Codec.lawful_uint16) (by decide) <|
      .cons (Field.lawful_withDefault _ _ Codec.lawful_text) (by decide) <|
      .cons (Field.lawful_withDefault _ _ Codec.lawful_text) (by decide) <|
      .cons (Field.lawful_withDefault _ _ Codec.lawful_bool) (by decide) <|
      .cons (Field.lawful_optional _ Codec.lawful_optionText) (by decide) <|
      .cons (Field.lawful_optional _ Codec.lawful_optionText) (by decide) .done)
    fun _ => rfl

theorem KafkaParams.lawful_codec : KafkaParams.codec.Lawful (depth + 2) :=
  Codec.lawful_iso
    (Codec.lawful_record _ <|
      .cons (Field.lawful_required _ (Codec.lawful_list Codec.lawful_text)) (by decide) <|
      .cons (Field.lawful_optional _ Codec.lawful_optionText) (by decide) <|
      .cons (Field.lawful_optional _ Codec.lawful_optionText) (by decide) <|
      .cons (Field.lawful_optional _ Codec.lawful_optionText) (by decide) <|
      .cons (Field.lawful_optional _ Codec.lawful_optionText) (by decide) .done)
    fun _ => rfl

theorem ConnectionReply.lawful_codec : ConnectionReply.codec.Lawful (depth + 1) :=
  Codec.lawful_iso
    (Codec.lawful_record _ <|
      .cons (Field.lawful_required _ Codec.lawful_bool) (by decide) <|
      .cons (Field.lawful_required _ Codec.lawful_text) (by decide) .done)
    fun _ => rfl

/-- The names of databases, tables and topics stand in records of one form. -/
theorem lawful_namesRecord (record : String) {success names : String} (h : success ∉ [names]) :
    (Codec.record record
      (.cons (.required success .bool) <| .cons (.required names (.list .text)) .done)).Lawful
        (depth + 2) :=
  Codec.lawful_record _ <|
    .cons (Field.lawful_required _ Codec.lawful_bool) h <|
    .cons (Field.lawful_required _ (Codec.lawful_list Codec.lawful_text)) List.not_mem_nil .done

theorem DatabasesReply.lawful_codec : DatabasesReply.codec.Lawful (depth + 2) :=
  Codec.lawful_iso (lawful_namesRecord depth _ (by decide)) fun _ => rfl

theorem TablesReply.lawful_codec : TablesReply.codec.Lawful (depth + 2) :=
  Codec.lawful_iso (lawful_namesRecord depth _ (by decide)) fun _ => rfl

theorem TopicsReply.lawful_codec : TopicsReply.codec.Lawful (depth + 2) :=
  Codec.lawful_iso (lawful_namesRecord depth _ (by decide)) fun _ => rfl

theorem Column.lawful_codec : Column.codec.Lawful (depth + 1) :=
  Codec.lawful_iso
    (Codec.lawful_record _ <|
      .cons (Field.lawful_required _ Codec.lawful_text) (by decide) <|
      .cons (Field.lawful_required _ Codec.lawful_text) (by decide) <|
      .cons (Field.lawful_omittable _ Codec.lawful_optionText) (by decide) .done)
    fun _ => rfl

theorem SchemaReply.lawful_codec : SchemaReply.codec.Lawful (depth + 3) :=
  Codec.lawful_iso
    (Codec.lawful_record _ <|
      .cons (Field.lawful_required _ Codec.lawful_bool) (by decide) <|
      .cons (Field.lawful_required _ (Codec.lawful_list (Column.lawful_codec depth))) (by decide)
        .done)
    fun _ => rfl

end PipelineConsole
