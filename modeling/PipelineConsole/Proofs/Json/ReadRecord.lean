import PipelineConsole.Proofs.Except
import PipelineConsole.Proofs.Json.Numbers

/-!
# What records are read from

Every field of a record that is read comes from a tree inside that of the record, which its codec
reads one level further down, or stands for a member that is not there. So what is known of all that
a codec reads carries over to the fields of records.

## Main definitions

* `Field.From`, `Fields.From` — where the value of a field comes from
* `Fields.All` — everything that is written for the fields has a property

## Main results

* `Codec.from_of_decode` — where the fields of a record come from
* `Field.readsBack_required_of_from`, `Field.readsBack_omittable_of_from` — a field with a document
  is read back once it was read
-/

namespace PipelineConsole.Json

/-- Where the value of a field comes from: one of some trees, which its codec reads, or the absence
of one. -/
inductive Field.From {α : Type} (source : Source) (trees : List Tree) (field : Field α) (a : α) :
    Prop where
  | tree (t : Tree) (ht : t ∈ trees) (h : field.codec.decode source t = .ok a)
  | absence (h : field.absence = .fallback a ∨ field.absence = .inObjects a)

namespace Fields

variable {α β τ : Type} {source : Source} {trees : List Tree}

/-- Where the values of the fields of a record come from. -/
def From (source : Source) (trees : List Tree) : {τ : Type} → Fields τ → τ → Prop
  | _, .done, _ => True
  | _, .cons field rest, (a, b) => field.From source trees a ∧ rest.From source trees b

/-- The slots hold nothing but what their codecs have read from some trees. -/
def SlotsFrom (source : Source) (trees : List Tree) : {τ : Type} → (fs : Fields τ) → fs.Slots → Prop
  | _, .done, _ => True
  | _, .cons field rest, slots =>
    (∀ a, slots.1 = some a → ∃ t ∈ trees, field.codec.decode source t = .ok a) ∧
      rest.SlotsFrom source trees slots.2

theorem slotsFrom_noSlots (fs : Fields τ) : fs.SlotsFrom source trees fs.noSlots := by
  induction fs with
  | done => trivial
  | cons field rest ih => exact ⟨fun _ h => (nomatch h), ih⟩

theorem SlotsFrom.put {fs : Fields τ} {slots next : fs.Slots} {name : String} {t : Tree}
    (h : fs.SlotsFrom source trees slots) (ht : t ∈ trees)
    (hput : fs.put source name t slots = some (.ok next)) : fs.SlotsFrom source trees next := by
  induction fs with
  | done => cases hput
  | cons field rest ih =>
    rw [Fields.put] at hput
    split at hput
    · have hput := Option.some.inj hput
      split at hput
      · cases hput
      · split at hput
        · next a ha =>
          obtain rfl := Except.ok.inj hput
          refine ⟨fun b hb => ?_, h.2⟩
          obtain rfl := Option.some.inj hb
          exact ⟨t, ht, ha⟩
        · cases hput
    · obtain ⟨result, hresult, hmap⟩ := Option.map_eq_some_iff.1 hput
      cases result with
      | error e => cases hmap
      | ok later =>
        obtain rfl := Except.ok.inj hmap
        exact ⟨h.1, ih h.2 hresult⟩

theorem SlotsFrom.putAll {fs : Fields τ} {slots last : fs.Slots}
    {members : List (Option String × Tree)} (h : fs.SlotsFrom source trees slots)
    (htrees : ∀ m ∈ members, m.2 ∈ trees) (hput : fs.putAll source slots members = .ok last) :
    fs.SlotsFrom source trees last := by
  induction members generalizing slots with
  | nil =>
    obtain rfl := Except.ok.inj hput
    exact h
  | cons m members ih =>
    obtain ⟨name, t⟩ := m
    obtain ⟨ht, hmembers⟩ := List.forall_mem_cons.1 htrees
    cases name with
    | none => cases hput
    | some name =>
      rw [putAll_cons] at hput
      split at hput
      · next next hnext => exact ih (h.put ht hnext) hmembers hput
      · cases hput
      · split at hput
        · exact ih h hmembers hput
        · cases hput

/-- A record that is made of slots is made of what was read. -/
theorem SlotsFrom.complete {fs : Fields τ} {slots : fs.Slots} {x : τ}
    (h : fs.SlotsFrom source trees slots) (hx : fs.complete slots = .ok x) :
    fs.From source trees x := by
  induction fs with
  | done => trivial
  | cons field rest ih =>
    have hrest {a} (ha : field.From source trees a)
        (hx : (do return (a, ← rest.complete slots.2) : Reads _) = .ok x) :
        (cons field rest).From source trees x := by
      obtain ⟨b, hb, hx⟩ := bind_eq_ok.1 hx
      obtain rfl := Except.ok.inj hx
      exact ⟨ha, ih h.2 hb⟩
    rw [Fields.complete] at hx
    split at hx
    · next hslot =>
      obtain ⟨t, ht, ha⟩ := h.1 _ hslot
      exact hrest (.tree t ht ha) hx
    · cases hx
    · next habsence => exact hrest (.absence (.inl habsence)) hx
    · next habsence => exact hrest (.absence (.inr habsence)) hx

/-- So is one that is read from an array. -/
theorem from_of_ofItems {fs : Fields τ} {record : String} {size index : Nat} {items : List Tree}
    {ending : Ending} {x : τ} (htrees : items ⊆ trees)
    (h : fs.ofItems record size source index items ending = .ok x) : fs.From source trees x := by
  induction fs generalizing index items with
  | done => trivial
  | cons field rest ih =>
    cases items with
    | nil =>
      rw [ofItems] at h
      obtain ⟨_, -, h⟩ := bind_eq_ok.1 h
      split at h
      · next habsence =>
        obtain ⟨b, hb, h⟩ := bind_eq_ok.1 h
        obtain rfl := Except.ok.inj h
        exact ⟨.absence (.inl habsence), ih htrees hb⟩
      · cases h
    | cons t items =>
      obtain ⟨ht, hitems⟩ := List.cons_subset.1 htrees
      rw [ofItems] at h
      obtain ⟨a, ha, h⟩ := bind_eq_ok.1 h
      obtain ⟨b, hb, h⟩ := bind_eq_ok.1 h
      obtain rfl := Except.ok.inj h
      exact ⟨.tree t ht (mapError_eq_ok.1 ha), ih hitems hb⟩

/-- Everything that is written for the fields has a property. -/
def All (P : Value → Prop) : {τ : Type} → Fields τ → τ → Prop
  | _, .done, _ => True
  | _, .cons field rest, (a, b) => (¬ field.omits a → P (field.codec.encode a)) ∧ rest.All P b

theorem all_iff {P : Value → Prop} (fs : Fields τ) (x : τ) :
    fs.All P x ↔ ∀ m ∈ fs.members x, P m.2 := by
  induction fs with
  | done => exact iff_of_true trivial fun m hm => absurd hm List.not_mem_nil
  | cons field rest ih =>
    rw [members, All, ih]
    split
    · next homits => exact and_iff_right fun hnot => absurd homits hnot
    · next homits => rw [List.forall_mem_cons, imp_iff_right homits]

end Fields

/-- What is of another kind is not read. -/
theorem wrongKind_ne_ok {α : Type} {t : Tree} {expected : String} {a : α} :
    wrongKind t expected ≠ .ok a := by
  unfold wrongKind misfit
  split <;> exact nofun

/-- The fields of a record that is read are read one level further down. -/
theorem Codec.from_of_decode {τ : Type} {name : String} {fs : Fields τ} {source : Source} {t : Tree}
    {x : τ} (h : (record name fs).decode source t = .ok x) :
    ∃ inner, descend source = .ok inner ∧ fs.From inner t.children x := by
  unfold record at h
  dsimp only at h
  split at h
  · obtain ⟨inner, hinner, h⟩ := bind_eq_ok.1 h
    obtain ⟨slots, hslots, h⟩ := bind_eq_ok.1 h
    obtain ⟨_, -, h⟩ := bind_eq_ok.1 h
    have hfrom := (Fields.slotsFrom_noSlots fs).putAll (fun m hm => List.mem_map_of_mem hm) hslots
    exact ⟨inner, hinner, hfrom.complete h⟩
  · obtain ⟨inner, hinner, h⟩ := bind_eq_ok.1 h
    exact ⟨inner, hinner, Fields.from_of_ofItems (List.Subset.refl _) h⟩
  · exact absurd h wrongKind_ne_ok

/-! ### Opaque documents in records -/

section Opaque

variable {levels : Nat} {t : Tree} {trees : List Tree} {name : String}

/-- A document that is read is the tree as an opaque value. -/
theorem Codec.value?_of_decode {source : Source} {v : Value}
    (h : opaqueValue.decode source t = .ok v) : t.value? source = some v := by
  unfold opaqueValue at h
  dsimp only at h
  split at h
  · next hv => exact Except.ok.inj h ▸ hv
  · cases h

/-- A document that was read from a text is kept. -/
theorem Codec.kept_of_decode {v : Value} (h : opaqueValue.decode (.text levels) t = .ok v) :
    v.Kept levels :=
  kept_of_value? (value?_of_decode h)

/-- So is one that is read back. -/
theorem Codec.ReadsBack.kept {v : Value} (h : opaqueValue.ReadsBack levels v) : v.Kept levels :=
  kept_of_decode (h.decode_encode (.text levels) (Nat.le_refl levels))

theorem Codec.ReadsBack.kept_option {o : Option Value} (h : opaqueValue.option.ReadsBack levels o) :
    (opaqueValue.option.encode o).Kept levels := by
  cases o with
  | none => exact .null
  | some v =>
    have hdecode := h.decode_encode (.text levels) (Nat.le_refl levels)
    unfold option at hdecode
    dsimp only at hdecode
    split at hdecode
    · cases hdecode
    · obtain ⟨w, hw, heq⟩ := map_eq_ok.1 hdecode
      obtain rfl := Option.some.inj heq
      exact kept_of_decode hw

/-- A document that is no array or object is read from its own tree only. -/
theorem Codec.eq_ofValue_of_decode {source : Source} {v : Value}
    (h : opaqueValue.decode source t = .ok v) :
    t = Tree.ofValue v ∨ (∃ items, v = .array items) ∨ ∃ members, v = .object members := by
  have hv := value?_of_decode h
  cases t with
  | fault => cases hv
  | null | bool => exact .inl (Option.some.inj hv ▸ rfl)
  | number | string =>
    obtain ⟨_, rfl, rfl⟩ := Option.map_eq_some_iff.1 hv
    exact .inl rfl
  | array items ending =>
    simp only [Tree.value?] at hv
    split at hv
    · cases hv
    · split at hv
      · obtain ⟨items, -, rfl⟩ := Option.map_eq_some_iff.1 hv
        exact .inr (.inl ⟨items, rfl⟩)
      · cases hv
  | object members ending =>
    simp only [Tree.value?] at hv
    split at hv
    · cases hv
    · split at hv
      · obtain ⟨members, -, rfl⟩ := Option.map_eq_some_iff.1 hv
        exact .inr (.inr ⟨_, rfl⟩)
      · cases hv

/-- Only `null` is read as `null`. -/
theorem Codec.eq_null_of_decode {source : Source} (h : opaqueValue.decode source t = .ok .null) :
    t = .null := by
  rcases eq_ofValue_of_decode h with h | ⟨_, h⟩ | ⟨_, h⟩
  · exact h
  · cases h
  · cases h

/-- A document in a field is read back once it was read. -/
theorem Field.readsBack_required_of_from {v : Value}
    (h : (required name .opaqueValue).From (.text levels) trees v) (hlegible : v.Legible) :
    Codec.opaqueValue.ReadsBack levels v := by
  cases h with
  | tree t _ ht => exact Codec.readsBack_opaqueValue (Codec.kept_of_decode ht) hlegible
  | absence h => rcases h with h | h <;> cases h

/-- So is one that may be absent, since `null` is read as its absence. -/
theorem Field.readsBack_omittable_of_from {o : Option Value}
    (h : (omittable name .opaqueValue).From (.text levels) trees o)
    (hlegible : ∀ v, o = some v → v.Legible) :
    Codec.opaqueValue.option.ReadsBack levels o := by
  cases o with
  | none => exact Codec.readsBack_none
  | some v =>
    cases h with
    | absence h => rcases h with h | h <;> cases h
    | tree t _ ht =>
      simp only [omittable, Codec.option] at ht
      split at ht
      · cases ht
      · next hnot =>
        obtain ⟨w, hw, heq⟩ := map_eq_ok.1 ht
        obtain rfl := Option.some.inj heq
        refine Codec.readsBack_some
          (Codec.readsBack_opaqueValue (Codec.kept_of_decode hw) (hlegible w rfl)) ?_
        -- A written `null` would be read as the absence of a document.
        cases w with
        | null => exact absurd (Codec.eq_null_of_decode hw) hnot
        | _ => exact Tree.noConfusion

/-- A record is read as an opaque document that holds its first field, if all it holds is kept. -/
theorem Codec.get?_of_record {α β : Type} (record : String) {field : Field α} {rest : Fields β}
    {a : α} {b : β} {depth : Nat} {source : Source} (hname : field.name ∉ rest.names)
    (homits : field.omits a = false)
    (hkept : (Fields.cons field rest).All (Value.Kept depth) (a, b))
    (hs : source.Allows (depth + 1)) :
    ∃ v, opaqueValue.decode source
        (Tree.ofValue ((Codec.record record (.cons field rest)).encode (a, b))) = .ok v ∧
      v.get? field.name = some (field.codec.encode a) := by
  have hmembers : (Fields.cons field rest).members (a, b) =
      (field.name, field.codec.encode a) :: rest.members b := by
    rw [Fields.members, homits]
    rfl
  have hothers : ∀ m ∈ rest.members b, m.1 ≠ field.name := fun m hm heq =>
    hname (heq ▸ Fields.name_mem_names rest b m hm)
  rw [Fields.all_iff, hmembers] at hkept
  have hread := value?_object hs fun inner hinner m hm => value?_of_kept (hkept m hm) hinner
  refine ⟨_, ?_, Value.get?_ofMembers_cons hothers⟩
  show opaqueValue.decode source
    (Tree.ofValue (.object ((Fields.cons field rest).members (a, b)))) = _
  rw [hmembers]
  unfold opaqueValue
  dsimp only
  rw [hread]

end Opaque

end PipelineConsole.Json
