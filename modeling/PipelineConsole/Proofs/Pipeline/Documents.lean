import PipelineConsole.Pipeline.Basic
import PipelineConsole.Pipeline.Lifecycle
import PipelineConsole.Proofs.Json.Stable

/-!
# Documents about pipelines

The stages of a pipeline are opaque documents, and what was read of them is read back. Whatever else
is written about pipelines is read back anyway.

## Main definitions

* `PipelineConfig.Readable` — the stages of a configuration are read back

## Main results

* `PipelineConfig.readable_of_decode` — so are those of a configuration that was read
* `PipelineConfig.Readable.readsBack`, `Pipeline.readsBack` — a configuration and its pipeline are
  read back
* `PipelineConfig.stable_codec`, `Pipeline.stable_codec` — so is every one that was read
* `Status.lawful_codec`, `Pipeline.ListItem.lawful_codec`, … — the other documents
-/

namespace PipelineConsole

open Json (Codec Field Fields)

theorem Status.lawful_codec (depth : Nat) : Status.codec.Lawful depth :=
  Codec.lawful_variants fun s => by cases s <;> decide

theorem Metadata.lawful_codec (depth : Nat) : Metadata.codec.Lawful (depth + 2) :=
  Codec.lawful_iso
    (Codec.lawful_record _ <|
      .cons (Field.lawful_withDefault _ _ (Codec.lawful_list Codec.lawful_text)) (by decide) .done)
    fun _ => rfl

namespace PipelineConfig

/-- The depth to which a stage may be nested, one level less than a text. -/
def stageDepth : Nat := Json.maxDepth - 1

/-- The stages of a configuration are read back. -/
structure Readable (c : PipelineConfig) : Prop where
  source : Codec.opaqueValue.ReadsBack stageDepth c.source
  sink : Codec.opaqueValue.ReadsBack stageDepth c.sink
  join : Codec.opaqueValue.option.ReadsBack stageDepth c.join
  filter : Codec.opaqueValue.option.ReadsBack stageDepth c.filter
  transformation : Codec.opaqueValue.option.ReadsBack stageDepth c.transformation
  schema : Codec.opaqueValue.option.ReadsBack stageDepth c.schema

/-- A configuration is read back if its stages are. -/
theorem Readable.readsBack {c : PipelineConfig} (h : c.Readable) :
    codec.ReadsBack Json.maxDepth c :=
  Codec.readsBack_iso
    (Codec.readsBack_record _ (by decide)
      ⟨Field.readsBack_written (Codec.lawful_text.readsBack _) rfl,
        Field.readsBack_written (Codec.lawful_text.readsBack _) rfl,
        Field.readsBack_written h.source rfl, Field.readsBack_written h.sink rfl,
        Field.readsBack_omittable h.join, Field.readsBack_omittable h.filter,
        Field.readsBack_omittable h.transformation, Field.readsBack_omittable h.schema,
        Field.readsBack_written ((Metadata.lawful_codec _).readsBack _) rfl, trivial⟩)
    rfl

/-- The stages of a configuration that was read are read back, if no number is read as another. -/
theorem readable_of_decode {c : PipelineConfig} {t : Json.Tree}
    (h : codec.decode (.text Json.maxDepth) t = .ok c) (hlegible : (codec.encode c).Legible) :
    c.Readable := by
  obtain ⟨⟨id, name, source, sink, join, filter, transformation, schema, metadata, _⟩, hread,
      rfl⟩ :=
    map_eq_ok.1 h
  obtain ⟨inner, hinner, -, -, hsource, hsink, hjoin, hfilter, htransformation, hschema, -⟩ :=
    Codec.from_of_decode hread
  obtain rfl := Except.ok.inj hinner
  obtain ⟨-, -, lsource, lsink, ljoin, lfilter, ltransformation, lschema, -⟩ :=
    (Fields.all_iff _ _).2 (Codec.legible_members.1 hlegible)
  have written {name : String} {o : Option Json.Value}
      (hl : ¬ (Field.omittable name .opaqueValue).omits o →
        (Codec.opaqueValue.option.encode o).Legible) : ∀ v, o = some v → v.Legible := by
    rintro v rfl
    exact hl Bool.false_ne_true
  exact {
    source := Field.readsBack_required_of_from hsource (lsource Bool.false_ne_true)
    sink := Field.readsBack_required_of_from hsink (lsink Bool.false_ne_true)
    join := Field.readsBack_omittable_of_from hjoin (written ljoin)
    filter := Field.readsBack_omittable_of_from hfilter (written lfilter)
    transformation := Field.readsBack_omittable_of_from htransformation (written ltransformation)
    schema := Field.readsBack_omittable_of_from hschema (written lschema) }

/-- Every configuration that was read is read back. -/
theorem stable_codec (levels : Nat) : codec.Stable (levels + 3) :=
  Codec.stable_iso
    (Codec.stable_record _ (by decide)
      ⟨(Field.lawful_withDefault _ _ Codec.lawful_text).stable,
        (Field.lawful_required _ Codec.lawful_text).stable,
        Field.stable_required _ Codec.stable_opaqueValue,
        Field.stable_required _ Codec.stable_opaqueValue,
        Field.stable_omittable _ Codec.stable_option_opaqueValue,
        Field.stable_omittable _ Codec.stable_option_opaqueValue,
        Field.stable_omittable _ Codec.stable_option_opaqueValue,
        Field.stable_omittable _ Codec.stable_option_opaqueValue,
        (Field.lawful_withDefault _ _ (Metadata.lawful_codec levels)).stable, trivial⟩)
    fun _ => rfl

end PipelineConfig

namespace Pipeline

/-- Every pipeline that was read is read back. -/
theorem stable_codec (levels : Nat) : codec.Stable (levels + 3) :=
  Codec.stable_iso
    (Codec.stable_record _ (by decide)
      ⟨(Field.lawful_required _ Codec.lawful_text).stable,
        (Field.lawful_required _ Codec.lawful_text).stable,
        (Field.lawful_required _ (Status.lawful_codec _)).stable,
        (Field.lawful_required _ Codec.lawful_timestamp).stable,
        (Field.lawful_required _ Codec.lawful_timestamp).stable,
        Field.stable_required _ Codec.stable_opaqueValue,
        Field.stable_required _ Codec.stable_opaqueValue,
        Field.stable_omittable _ Codec.stable_option_opaqueValue,
        Field.stable_omittable _ Codec.stable_option_opaqueValue,
        Field.stable_omittable _ Codec.stable_option_opaqueValue,
        Field.stable_omittable _ Codec.stable_option_opaqueValue,
        (Field.lawful_withDefault _ _ (Metadata.lawful_codec levels)).stable, trivial⟩)
    fun _ => rfl

/-- A pipeline is read back if the stages of its configuration are. -/
theorem readsBack {p : Pipeline} (h : p.config.Readable) : codec.ReadsBack Json.maxDepth p :=
  Codec.readsBack_iso
    (Codec.readsBack_record _ (by decide)
      ⟨Field.readsBack_written (Codec.lawful_text.readsBack _) rfl,
        Field.readsBack_written (Codec.lawful_text.readsBack _) rfl,
        Field.readsBack_written ((Status.lawful_codec _).readsBack _) rfl,
        Field.readsBack_written (Codec.lawful_timestamp.readsBack _) rfl,
        Field.readsBack_written (Codec.lawful_timestamp.readsBack _) rfl,
        Field.readsBack_written h.source rfl, Field.readsBack_written h.sink rfl,
        Field.readsBack_omittable h.join, Field.readsBack_omittable h.filter,
        Field.readsBack_omittable h.transformation, Field.readsBack_omittable h.schema,
        Field.readsBack_written ((Metadata.lawful_codec _).readsBack _) rfl, trivial⟩)
    rfl

/-- Who reads a pipeline as an opaque document finds its id there. -/
theorem read_id {p : Pipeline} (h : p.config.Readable) :
    ∃ v, Codec.opaqueValue.read (Text.Utf8.encode (codec.write p)) = .ok v ∧
      v.get? "pipeline_id" = some (.string p.id) := by
  have htags : (Metadata.codec.encode p.metadata).Kept PipelineConfig.stageDepth := by
    refine ⟨List.pairwise_singleton _ _, fun m hm => ?_⟩
    obtain rfl := List.mem_singleton.1 hm
    intro v hv
    obtain ⟨tag, -, rfl⟩ := List.mem_map.1 hv
    exact .string
  have hread : ∃ v, Codec.opaqueValue.decode (.text Json.maxDepth)
      (Json.Tree.ofValue (codec.encode p)) = .ok v ∧
        v.get? "pipeline_id" = some (.string p.id) :=
    Codec.get?_of_record "Pipeline" (by decide) rfl
      ⟨fun _ => .string, fun _ => .string, fun _ => .string, fun _ => .string, fun _ => .string,
        fun _ => h.source.kept, fun _ => h.sink.kept, fun _ => h.join.kept_option,
        fun _ => h.filter.kept_option, fun _ => h.transformation.kept_option,
        fun _ => h.schema.kept_option, fun _ => htags, trivial⟩
      (Nat.le_refl Json.maxDepth)
  obtain ⟨v, hdecode, hid⟩ := hread
  exact ⟨v, Codec.read_text (readsBack h).legible hdecode, hid⟩

theorem ListItem.lawful_codec (depth : Nat) : ListItem.codec.Lawful (depth + 1) :=
  Codec.lawful_iso
    (Codec.lawful_record _ <|
      .cons (Field.lawful_required _ Codec.lawful_text) (by decide) <|
      .cons (Field.lawful_required _ Codec.lawful_text) (by decide) <|
      .cons (Field.lawful_required _ (Status.lawful_codec depth)) (by decide) <|
      .cons (Field.lawful_required _ Codec.lawful_timestamp) (by decide) <|
      .cons (Field.lawful_required _ Codec.lawful_timestamp) (by decide) .done)
    fun _ => rfl

theorem Health.lawful_codec (depth : Nat) : Health.codec.Lawful (depth + 1) :=
  Codec.lawful_iso
    (Codec.lawful_record _ <|
      .cons (Field.lawful_required _ Codec.lawful_text) (by decide) <|
      .cons (Field.lawful_required _ Codec.lawful_text) (by decide) <|
      .cons (Field.lawful_required _ (Status.lawful_codec depth)) (by decide) <|
      .cons (Field.lawful_required _ Codec.lawful_timestamp) (by decide) <|
      .cons (Field.lawful_required _ Codec.lawful_timestamp) (by decide) .done)
    fun _ => rfl

end Pipeline

theorem RenameRequest.lawful_codec (depth : Nat) : RenameRequest.codec.Lawful (depth + 1) :=
  Codec.lawful_iso
    (Codec.lawful_record _ <|
      .cons (Field.lawful_required _ Codec.lawful_text) (by decide) .done)
    fun _ => rfl

theorem Action.lawful_codec (depth : Nat) : Action.codec.Lawful depth :=
  Codec.lawful_variants fun a => by cases a <;> decide

theorem CreateReply.lawful_codec (depth : Nat) : CreateReply.codec.Lawful (depth + 1) :=
  Codec.lawful_iso
    (Codec.lawful_record _ <|
      .cons (Field.lawful_required _ Codec.lawful_bool) (by decide) <|
      .cons (Field.lawful_required _ Codec.lawful_text) (by decide) <|
      .cons (Field.lawful_required _ Codec.lawful_text) (by decide) .done)
    fun _ => rfl

theorem TerminateAllReply.lawful_codec (depth : Nat) : TerminateAllReply.codec.Lawful (depth + 2) :=
  Codec.lawful_iso
    (Codec.lawful_record _ <|
      .cons (Field.lawful_required _ Codec.lawful_bool) (by decide) <|
      .cons (Field.lawful_required _ (Codec.lawful_list Codec.lawful_text)) (by decide) .done)
    fun _ => rfl

theorem ActionReply.lawful_codec (depth : Nat) : ActionReply.codec.Lawful (depth + 1) :=
  Codec.lawful_iso
    (Codec.lawful_record _ <|
      .cons (Field.lawful_required _ Codec.lawful_bool) (by decide) <|
      .cons (Field.lawful_required _ Codec.lawful_text) (by decide) <|
      .cons (Field.lawful_required _ (Status.lawful_codec depth)) (by decide) .done)
    fun _ => rfl

end PipelineConsole
