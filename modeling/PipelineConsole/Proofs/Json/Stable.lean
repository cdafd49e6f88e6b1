import PipelineConsole.Proofs.Json.Literals

/-!
# What was read is read back

A codec need not read back every value: an opaque document may be nested too deeply, its members may
be out of order, and one that is `null` is taken for an absent one. No such value is ever read. A
codec is stable if it reads back every value that it has read, as long as the doubles in the value
survive being written.

## Main definitions

* `Value.Durable` — the doubles of a document survive being written
* `Codec.Stable`, `Field.Stable`, `Fields.Stable` — what was read is read back

## Main results

* `Codec.stable_opaqueValue`, `Codec.stable_table` — opaque documents
* `Codec.Lawful.stable` — codecs that read back every value
* `Codec.stable_option`, `Codec.stable_iso`, `Codec.stable_record` — combinators
* `Codec.Stable.read_write_of_read` — in terms of texts
-/

namespace PipelineConsole.Json

variable {levels : Nat}

/-- The doubles of a document survive being written. -/
def Value.Durable (v : Value) : Prop := ∀ x, .float x ∈ v.numbers → SurvivesText x

/-- Integers that fit and doubles that survive are all that a legible document needs. -/
theorem Value.Durable.legible {v : Value} (h : v.Durable) (hfits : ∀ n ∈ v.numbers, n.Fits) :
    v.Legible := by
  refine v.legible_of_numbers fun n hn => ?_
  cases n with
  | int n => exact readsBack_int (hfits _ hn).1 (hfits _ hn).2
  | float x => exact readsBack_float (h x hn)

theorem Value.durable_object {members : List (String × Value)} :
    (Value.object members).Durable ↔ ∀ m ∈ members, m.2.Durable := by
  refine ⟨fun h m hm x hx => h x (mem_memberNumbers.2 ⟨m, hm, hx⟩), fun h x hx => ?_⟩
  obtain ⟨m, hm, hx⟩ := mem_memberNumbers.1 hx
  exact h m hm x hx

/-- What a codec has read from a text, where some levels of nesting are left, is read back there, if
its doubles survive. -/
def Codec.Stable {α : Type} (c : Codec α) (levels : Nat) : Prop :=
  ∀ t a, t.Fits → c.decode (.text levels) t = .ok a → (c.encode a).Durable → c.ReadsBack levels a

namespace Codec

variable {α β : Type} {c : Codec α}

/-- A codec that reads back every value is stable. -/
theorem Lawful.stable (h : c.Lawful levels) : c.Stable levels := fun _ a _ _ _ => h.readsBack a

/-! ### Opaque documents -/

theorem stable_opaqueValue : opaqueValue.Stable levels := by
  intro t v ht h hdurable
  -- It is nested no deeper than the levels that were left for reading it.
  refine readsBack_opaqueValue (kept_of_decode h) (hdurable.legible fun n hn => ?_)
  exact ht n (mem_numbers_of_value? (value?_of_decode h) hn)

/-- The members of a table are put in their places one after another. -/
theorem eq_foldl_of_decodeMembers {source : Source} {trees : List (Option String × Tree)}
    {soFar members : List (String × Value)}
    (h : decodeMembers source trees soFar = .ok members) :
    ∃ read, memberValues? source trees = some read ∧
      members = read.foldl (fun acc m => Value.insertMember m.1 m.2 acc) soFar := by
  induction trees generalizing soFar with
  | nil => exact ⟨[], rfl, (Except.ok.inj h).symm⟩
  | cons m trees ih =>
    obtain ⟨name, t⟩ := m
    unfold decodeMembers at h
    split at h
    · next name v hv =>
      obtain ⟨read, hread, rfl⟩ := ih h
      refine ⟨(name, v) :: read, ?_, rfl⟩
      rw [memberValues?, hv, hread]
      rfl
    · cases h

theorem stable_table : table.Stable (levels + 1) := by
  intro t members ht h hdurable
  unfold table at h
  dsimp only at h
  split at h
  · next trees ending =>
    obtain ⟨inner, hinner, h⟩ := bind_eq_ok.1 h
    obtain rfl := Except.ok.inj hinner
    obtain ⟨all, hall, h⟩ := bind_eq_ok.1 h
    obtain ⟨_, -, h⟩ := bind_eq_ok.1 h
    obtain rfl := Except.ok.inj h
    obtain ⟨read, hread, rfl⟩ := eq_foldl_of_decodeMembers hall
    have hnone : Value.SortedMembers [] := List.Pairwise.nil
    obtain ⟨hsorted, hmembers⟩ := Value.foldl_insertMember
      (P := fun m => m.2.Kept levels ∧ ∀ n ∈ m.2.numbers, n.Fits) hnone (fun _ hm => nomatch hm)
      fun m hm => by
        obtain ⟨t, htree, hv⟩ := mem_memberValues? hread m hm
        have hfits := ht.of_mem_children (List.mem_map_of_mem htree)
        exact ⟨kept_of_value? hv, fun n hn => hfits n (mem_numbers_of_value? hv hn)⟩
    exact readsBack_table hsorted (fun m hm => (hmembers m hm).1)
      fun m hm => (Value.durable_object.1 hdurable m hm).legible (hmembers m hm).2
  · exact absurd h wrongKind_ne_ok

/-! ### Combinators -/

/-- A value that may be absent is read back if the form of an absent one is that of nothing else
that was read. -/
theorem stable_option (h : c.Stable levels)
    (hnull : ∀ t a, c.decode (.text levels) t = .ok a →
      Tree.ofValue (c.encode a) = .null → t = .null) : c.option.Stable levels := by
  intro t o ht ho hdurable
  cases o with
  | none => exact readsBack_none
  | some a =>
    unfold option at ho
    dsimp only at ho
    split at ho
    · cases ho
    · next hnot =>
      obtain ⟨b, hb, heq⟩ := map_eq_ok.1 ho
      obtain rfl := Option.some.inj heq
      exact readsBack_some (h t b ht hb hdurable) fun heq => hnot (hnull t b hb heq)

theorem stable_option_opaqueValue : opaqueValue.option.Stable levels := by
  -- An opaque `null` is read from `null` only, which is taken for an absent value before that.
  refine stable_option stable_opaqueValue fun t v h hv => ?_
  rcases eq_ofValue_of_decode h with rfl | ⟨items, rfl⟩ | ⟨members, rfl⟩
  · exact hv
  · cases hv
  · cases hv

/-- A change of type keeps stability if nothing is lost by it. -/
theorem stable_iso {forth : α → β} {back : β → α} (h : c.Stable levels)
    (hforth : ∀ a, back (forth a) = a) : (c.iso forth back).Stable levels := by
  intro t b ht hb hdurable
  obtain ⟨a, ha, rfl⟩ := map_eq_ok.1 hb
  have hdurable : (c.encode (back (forth a))).Durable := hdurable
  rw [hforth] at hdurable
  refine readsBack_iso ?_ (congrArg forth (hforth a))
  rw [hforth]
  exact h t a ht ha hdurable

end Codec

/-! ### Records -/

/-- The value of a field is read back if it comes from a text, and its doubles survive. -/
def Field.Stable {α : Type} (field : Field α) (levels : Nat) : Prop :=
  ∀ trees a, (∀ t ∈ trees, t.Fits) → field.From (.text levels) trees a →
    (¬ field.omits a → (field.codec.encode a).Durable) → field.ReadsBack levels a

namespace Field

variable {α : Type} {field : Field α} {c : Codec α}

theorem Lawful.stable (h : field.Lawful levels) : field.Stable levels :=
  fun _ a _ _ _ => h.readsBack a

/-- A field is stable with its codec if it leaves out what stands for a member that is not there,
and nothing else. -/
theorem stable_of_codec (h : field.codec.Stable levels)
    (homits : ∀ a, field.omits a ↔ field.absence = .fallback a ∨ field.absence = .inObjects a) :
    field.Stable levels := by
  intro trees a htrees hfrom hdurable
  refine ⟨fun hwritten => ?_, (homits a).1⟩
  cases hfrom with
  | tree t ht ha => exact h t a (htrees t ht) ha (hdurable hwritten)
  | absence habsence => exact absurd ((homits a).2 habsence) hwritten

theorem stable_required (name : String) (h : c.Stable levels) : (required name c).Stable levels :=
  stable_of_codec h fun _ => by simp [required]

theorem stable_omittable (name : String) (h : c.option.Stable levels) :
    (omittable name c).Stable levels :=
  stable_of_codec h fun o => by cases o <;> simp [omittable]

end Field

namespace Fields

variable {τ : Type}

/-- The fields of a record are stable. -/
def Stable (levels : Nat) : {τ : Type} → Fields τ → Prop
  | _, .done => True
  | _, .cons field rest => field.Stable levels ∧ rest.Stable levels

theorem Stable.readsBack {fs : Fields τ} (h : fs.Stable levels) {trees : List Tree}
    (htrees : ∀ t ∈ trees, t.Fits) {x : τ} (hfrom : fs.From (.text levels) trees x)
    (hdurable : fs.All Value.Durable x) : fs.ReadsBack levels x := by
  induction fs with
  | done => trivial
  | cons field rest ih =>
    exact ⟨h.1 trees x.1 htrees hfrom.1 hdurable.1, ih h.2 hfrom.2 hdurable.2⟩

end Fields

namespace Codec

/-- A record of stable fields with distinct names is stable, with one level more. -/
theorem stable_record {τ : Type} (name : String) {fs : Fields τ} (hnames : fs.names.Nodup)
    (h : fs.Stable levels) : (record name fs).Stable (levels + 1) := by
  intro t x ht hx hdurable
  obtain ⟨inner, hinner, hfrom⟩ := from_of_decode hx
  obtain rfl := Except.ok.inj hinner
  refine readsBack_record name hnames (h.readsBack (fun _ => ht.of_mem_children) hfrom ?_)
  exact (Fields.all_iff fs x).2 (Value.durable_object.1 hdurable)

/-- What a stable codec reads from a text is read back from the text that is written for it. -/
theorem Stable.read_write_of_read {α : Type} {c : Codec α} (h : c.Stable maxDepth)
    {bytes : Text.Utf8.Bytes} {a : α} (hread : c.read bytes = .ok a)
    (hdurable : (c.encode a).Durable) : c.read (Text.Utf8.encode (c.write a)) = .ok a := by
  obtain ⟨t, ht, hdecode⟩ := decode_of_read hread
  have hfits : t.Fits := by
    have hfits := Tree.fits_ofBytes bytes
    rwa [ht] at hfits
  exact (h t a hfits hdecode hdurable).read_write (Nat.le_refl maxDepth)

end Codec

end PipelineConsole.Json
