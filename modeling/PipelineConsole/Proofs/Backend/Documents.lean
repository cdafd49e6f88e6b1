import PipelineConsole.Backend.Operation
import PipelineConsole.Orchestrator.Fault
import PipelineConsole.Proofs.Pipeline.Documents

/-!
# Documents between the console and its services

The requests that the console sends and the answers that it gets are read back as they were written.
Opaque documents are in requests for transforms and in the details of faults; the latter are built
by the orchestrator, so that they are sorted and not nested deeply.

## Main definitions

* `BackendFault.Tidy` — the details of a fault are as they are kept

## Main results

* `TransformRequest.readsBack`, `FilterRequest.lawful_codec`, … — requests
* `TransformRequest.stable_codec`, `BackendFault.stable_codec` — what was read is read back
* `Notification.lawful_codec`, `DeadLetter.State.lawful_codec`, … — answers
* `Orchestrator.Fault.readsBack` — faults
* `Transform.kept_evalAll` — the values of transforms on a kept sample
-/

namespace PipelineConsole

open Json (Codec Field Fields)

/-! ### Requests -/

theorem MarkReadRequest.lawful_codec (depth : Nat) : MarkReadRequest.codec.Lawful (depth + 2) :=
  Codec.lawful_iso
    (Codec.lawful_record _ <|
      .cons (Field.lawful_required _ (Codec.lawful_list Codec.lawful_text)) (by decide) .done)
    fun _ => rfl

theorem FieldSpec.lawful_codec (depth : Nat) : FieldSpec.codec.Lawful (depth + 1) :=
  Codec.lawful_iso
    (Codec.lawful_record _ <|
      .cons (Field.lawful_required _ Codec.lawful_text) (by decide) <|
      .cons (Field.lawful_required _ Codec.lawful_text) (by decide) .done)
    fun _ => rfl

theorem FilterRequest.lawful_codec (depth : Nat) : FilterRequest.codec.Lawful (depth + 3) :=
  Codec.lawful_iso
    (Codec.lawful_record _ <|
      .cons (Field.lawful_required _ Codec.lawful_text) (by decide) <|
      .cons (Field.lawful_withDefault _ _ (Codec.lawful_list (FieldSpec.lawful_codec depth)))
        (by decide) .done)
    fun _ => rfl

theorem Transform.lawful_codec (depth : Nat) : Transform.codec.Lawful (depth + 1) :=
  Codec.lawful_iso
    (Codec.lawful_record _ <|
      .cons (Field.lawful_required _ Codec.lawful_text) (by decide) <|
      .cons (Field.lawful_required _ Codec.lawful_text) (by decide) <|
      .cons (Field.lawful_required _ Codec.lawful_text) (by decide) .done)
    fun _ => rfl

theorem Transform.lawful_listCodec (depth : Nat) : Transform.listCodec.Lawful (depth + 3) :=
  Codec.lawful_iso
    (Codec.lawful_record _ <|
      .cons (Field.lawful_withDefault _ _ (Codec.lawful_list (Transform.lawful_codec depth)))
        (by decide) .done)
    fun _ => rfl

namespace TransformRequest

/-- The depth to which a sample may be nested, one level less than a text. -/
def sampleDepth : Nat := Json.maxDepth - 1

/-- A sample that was read is kept. -/
theorem kept_of_decode {r : TransformRequest} {t : Json.Tree}
    (h : codec.decode (.text Json.maxDepth) t = .ok r) : r.sample.Kept sampleDepth := by
  obtain ⟨⟨kind, transforms, sample, _⟩, hread, rfl⟩ := map_eq_ok.1 h
  obtain ⟨inner, hinner, -, -, hsample, -⟩ := Codec.from_of_decode hread
  obtain rfl := Except.ok.inj hinner
  cases hsample with
  | tree t _ ht => exact Codec.kept_of_decode ht
  | absence h => rcases h with h | h <;> cases h

/-- A request is read back if its sample is kept and no number is read as another. -/
theorem readsBack {r : TransformRequest} (hkept : r.sample.Kept sampleDepth)
    (hlegible : (codec.encode r).Legible) : codec.ReadsBack Json.maxDepth r := by
  obtain ⟨-, -, hsample, -⟩ := (Fields.all_iff _ _).2 (Codec.legible_members.1 hlegible)
  exact Codec.readsBack_iso
    (Codec.readsBack_record _ (by decide)
      ⟨Field.readsBack_written (Codec.lawful_text.readsBack _) rfl,
        Field.readsBack_written ((Transform.lawful_listCodec _).readsBack _) rfl,
        Field.readsBack_written
          (Codec.readsBack_opaqueValue hkept (hsample Bool.false_ne_true)) rfl, trivial⟩)
    rfl

/-- Every request that was read is read back. -/
theorem stable_codec (levels : Nat) : codec.Stable (levels + 4) :=
  Codec.stable_iso
    (Codec.stable_record _ (by decide)
      ⟨(Field.lawful_required _ Codec.lawful_text).stable,
        (Field.lawful_withDefault _ _ (Transform.lawful_listCodec levels)).stable,
        Field.stable_required _ Codec.stable_opaqueValue, trivial⟩)
    fun _ => rfl

end TransformRequest

/-! ### Transforms -/

section Eval

variable {depth : Nat} {sample v : Json.Value}

theorem Expr.kept_follow? {names : List (List Char)} (h : sample.Kept depth)
    (hv : follow? sample names = some v) : v.Kept depth := by
  induction names generalizing sample with
  | nil => exact Option.some.inj hv ▸ h
  | cons name names ih =>
    obtain ⟨w, hw, hv⟩ := Option.bind_eq_some_iff.1 hv
    exact ih (h.get? hw) hv

/-- The value of an expression on a kept sample is kept. -/
theorem Expr.kept_eval {e : Expr} (h : sample.Kept depth) (hv : e.eval sample = .ok v) :
    v.Kept depth := by
  cases e with
  | call f argument =>
    obtain ⟨w, -, hv⟩ := bind_eq_ok.1 hv
    unfold TextFunction.eval at hv
    split at hv
    · obtain rfl := Except.ok.inj hv
      exact .string
    · obtain rfl := Except.ok.inj hv
      exact .null
    · cases hv
  | text cs =>
    obtain rfl := Except.ok.inj hv
    exact .string
  | number x =>
    obtain rfl := Except.ok.inj hv
    unfold Json.Value.double
    split
    · exact .number
    · exact .null
  | bool b =>
    obtain rfl := Except.ok.inj hv
    exact .bool
  | nil =>
    obtain rfl := Except.ok.inj hv
    exact .null
  | path cs =>
    unfold eval at hv
    split at hv
    · next hlookup => exact Except.ok.inj hv ▸ kept_follow? h hlookup
    · cases hv

theorem Transform.kept_evalInto {transforms : List Transform}
    {soFar members : List (String × Json.Value)} (h : sample.Kept depth)
    (hsorted : Json.Value.SortedMembers soFar) (hsoFar : ∀ m ∈ soFar, m.2.Kept depth)
    (hmembers : evalInto sample soFar transforms = .ok members) :
    (Json.Value.object members).Kept (depth + 1) := by
  induction transforms generalizing soFar with
  | nil => exact Except.ok.inj hmembers ▸ ⟨hsorted, hsoFar⟩
  | cons t transforms ih =>
    obtain ⟨w, hw, hmembers⟩ := bind_eq_ok.1 hmembers
    refine ih hsorted.insert (fun m hm => ?_) hmembers
    rcases Json.Value.mem_insertMember hm with rfl | hm
    · exact Expr.kept_eval h hw
    · exact hsoFar m hm

/-- The values of transforms on a kept sample make a kept object. -/
theorem Transform.kept_evalAll {transforms : List Transform} (h : sample.Kept depth)
    (hv : evalAll transforms sample = .ok v) : v.Kept (depth + 1) := by
  unfold evalAll at hv
  split at hv
  · obtain ⟨members, hmembers, rfl⟩ := map_eq_ok.1 hv
    have hnone : Json.Value.SortedMembers [] := List.Pairwise.nil
    exact kept_evalInto h hnone (fun m hm => absurd hm List.not_mem_nil) hmembers
  · cases hv

end Eval

/-! ### Answers -/

theorem Severity.lawful_codec (depth : Nat) : Severity.codec.Lawful depth :=
  Codec.lawful_variants fun s => by cases s <;> decide

theorem Notification.lawful_codec (depth : Nat) : Notification.codec.Lawful (depth + 1) :=
  Codec.lawful_iso
    (Codec.lawful_record _ <|
      .cons (Field.lawful_required _ Codec.lawful_text) (by decide) <|
      .cons (Field.lawful_omittable _ Codec.lawful_optionText) (by decide) <|
      .cons (Field.lawful_required _ (Severity.lawful_codec depth)) (by decide) <|
      .cons (Field.lawful_required _ Codec.lawful_text) (by decide) <|
      .cons (Field.lawful_required _ Codec.lawful_text) (by decide) <|
      .cons (Field.lawful_required _ Codec.lawful_timestamp) (by decide) <|
      .cons (Field.lawful_withDefault _ _ Codec.lawful_bool) (by decide) .done)
    fun _ => rfl

theorem MarkReadReply.lawful_codec (depth : Nat) : MarkReadReply.codec.Lawful (depth + 1) :=
  Codec.lawful_iso
    (Codec.lawful_record _ <|
      .cons (Field.lawful_required _ Codec.lawful_bool) (by decide) <|
      .cons (Field.lawful_required _ Codec.lawful_count) (by decide) .done)
    fun _ => rfl

theorem DeadLetter.Message.lawful_codec (depth : Nat) : Message.codec.Lawful (depth + 1) :=
  Codec.lawful_iso
    (Codec.lawful_record _ <|
      .cons (Field.lawful_required _ Codec.lawful_text) (by decide) <|
      .cons (Field.lawful_required _ Codec.lawful_text) (by decide) <|
      .cons (Field.lawful_required _ Codec.lawful_text) (by decide) .done)
    fun _ => rfl

theorem DeadLetter.State.lawful_codec (depth : Nat) : State.codec.Lawful (depth + 1) :=
  Codec.lawful_iso
    (Codec.lawful_record _ <|
      .cons (Field.lawful_nullable _ Codec.lawful_optionTimestamp) (by decide) <|
      .cons (Field.lawful_nullable _ Codec.lawful_optionTimestamp) (by decide) <|
      .cons (Field.lawful_required _ Codec.lawful_uint64) (by decide) <|
      .cons (Field.lawful_required _ Codec.lawful_uint64) (by decide) .done)
    fun _ => rfl

theorem PlatformInfo.lawful_codec (depth : Nat) : PlatformInfo.codec.Lawful (depth + 1) :=
  Codec.lawful_iso
    (Codec.lawful_record _ <|
      .cons (Field.lawful_required _ Codec.lawful_text) (by decide) <|
      .cons (Field.lawful_omittable _ Codec.lawful_optionText) (by decide) .done)
    fun _ => rfl

/-! ### Faults -/

theorem ErrorBody.lawful_codec (depth : Nat) : ErrorBody.codec.Lawful (depth + 1) :=
  Codec.lawful_iso
    (Codec.lawful_record _ <|
      .cons (Field.lawful_required _ Codec.lawful_uint16) (by decide) <|
      .cons (Field.lawful_required _ Codec.lawful_text) (by decide) .done)
    fun _ => rfl

namespace BackendFault

/-- Every fault that was read is read back: details are left out only if there are none, which is
what a fault without details has. -/
theorem stable_codec (levels : Nat) : codec.Stable (levels + 2) :=
  Codec.stable_iso
    (Codec.stable_record _ (by decide)
      ⟨(Field.lawful_optional _
          (Codec.lawful_option Codec.lawful_uint16 fun _ => Json.Tree.noConfusion)).stable,
        (Field.lawful_optional _ Codec.lawful_optionText).stable,
        (Field.lawful_optional _ Codec.lawful_optionText).stable,
        Field.stable_of_codec Codec.stable_table fun details => by cases details <;> simp,
        trivial⟩)
    fun _ => rfl

/-- The details of a fault are sorted, and none is nested deeper than a list of texts. -/
structure Tidy (f : BackendFault) : Prop where
  sorted : Json.Value.SortedMembers f.details
  kept : ∀ m ∈ f.details, m.2.Kept 1
  legible : ∀ m ∈ f.details, m.2.Legible

theorem Tidy.withDetail {f : BackendFault} {name : String} {v : Json.Value} (h : f.Tidy)
    (hkept : v.Kept 1) (hlegible : v.Legible) : (f.withDetail name v).Tidy where
  sorted := h.sorted.insert
  kept m hm := by
    rcases Json.Value.mem_insertMember hm with rfl | hm
    · exact hkept
    · exact h.kept m hm
  legible m hm := by
    rcases Json.Value.mem_insertMember hm with rfl | hm
    · exact hlegible
    · exact h.legible m hm

theorem tidy_of_details_eq_nil {f : BackendFault} (h : f.details = []) : f.Tidy := by
  refine ⟨?_, ?_, ?_⟩ <;> rw [h]
  · exact List.Pairwise.nil
  · exact fun m hm => absurd hm List.not_mem_nil
  · exact fun m hm => absurd hm List.not_mem_nil

/-- A fault is read back if its details are tidy. -/
theorem Tidy.readsBack {f : BackendFault} (h : f.Tidy) : codec.ReadsBack Json.maxDepth f :=
  Codec.readsBack_iso
    (Codec.readsBack_record _ (by decide)
      ⟨Field.readsBack_written
          ((Codec.lawful_option Codec.lawful_uint16
            fun _ => Json.Tree.noConfusion).readsBack _) rfl,
        Field.readsBack_written (Codec.lawful_optionText.readsBack _) rfl,
        Field.readsBack_written (Codec.lawful_optionText.readsBack _) rfl,
        { codec := fun _ => Codec.readsBack_table h.sorted
            (fun m hm => (h.kept m hm).mono (by decide)) h.legible
          absence := fun homits => .inl (by rw [List.isEmpty_iff.1 homits]) }, trivial⟩)
    rfl

end BackendFault

namespace Orchestrator.Fault

theorem tidy_toFault (r : Refusal) (id : String) : (r.toFault id).Tidy := by
  have htext (s : String) : (Json.Value.string s).Kept 1 := trivial
  have hlist (xs : List String) : (Json.Value.strings xs).Kept 1 := by
    intro v hv
    obtain ⟨x, -, rfl⟩ := List.mem_map.1 hv
    trivial
  have hlegible (xs : List String) : (Json.Value.strings xs).Legible := by
    refine Json.Codec.legible_items fun v hv => ?_
    obtain ⟨x, -, rfl⟩ := List.mem_map.1 hv
    trivial
  -- The details are the id, the two statuses and the list of statuses that are allowed.
  exact ((((BackendFault.tidy_of_details_eq_nil rfl).withDetail (htext id) trivial).withDetail
    (htext _) trivial).withDetail (htext _) trivial).withDetail (hlist _) (hlegible _)

theorem tidy (f : Fault) : f.toBackendFault.Tidy := by
  cases f with
  | notAllowed id refusal => exact tidy_toFault refusal id
  | unknownPipeline id | alreadyRunning id | idTaken id =>
    exact (BackendFault.tidy_of_details_eq_nil rfl).withDetail trivial trivial
  | _ => exact BackendFault.tidy_of_details_eq_nil rfl

/-- What the orchestrator answers when it refuses a call is read back. -/
theorem readsBack (f : Fault) : BackendFault.codec.ReadsBack Json.maxDepth f.toBackendFault :=
  f.tidy.readsBack

end Orchestrator.Fault

end PipelineConsole
