import PipelineConsole.Json.Record
import PipelineConsole.Proofs.Except
import PipelineConsole.Proofs.Json.Tree
import PipelineConsole.Proofs.Time.Reader

/-!
# Codecs read what they write

A value is read back by a codec if reading what is written for it gives the value again, wherever
enough levels of nesting are left. The combinators keep this: a record is read back if its fields
are, if these have distinct names, and if only defaults are left out. A codec is lawful if it reads
back every value.

## Main definitions

* `Source.Allows` — some levels of nesting are left
* `Codec.ReadsBack`, `Field.ReadsBack`, `Fields.ReadsBack` — reading gives back a value
* `Codec.Lawful`, `Field.Lawful`, `Fields.Lawful` — reading gives back every value

## Main results

* `lawful_text`, `lawful_bool`, `lawful_uint16`, `lawful_timestamp`, `lawful_variants` — basic
  codecs
* `readsBack_some`, `readsBack_list`, `readsBack_iso`, `readsBack_record` — combinators for a value
* `lawful_option`, `lawful_list`, `lawful_iso`, `lawful_record` — combinators for all values
* `Codec.ReadsBack.read_write`, `Codec.ReadsBack.readFirst_write` — the text of a value is read as
  the value
-/

namespace PipelineConsole.Json

/-- Arrays and objects may still be nested to a depth. -/
def Source.Allows (depth : Nat) : Source → Prop
  | .text levels => depth ≤ levels
  | .value => True

/-- One level down, one less is needed. -/
theorem descend_of_allows {depth : Nat} {source : Source} (h : source.Allows (depth + 1)) :
    ∃ inner, descend source = .ok inner ∧ inner.Allows depth := by
  cases source with
  | value => exact ⟨.value, rfl, trivial⟩
  | text levels =>
    cases levels with
    | zero => exact absurd h (Nat.not_succ_le_zero depth)
    | succ levels => exact ⟨.text levels, rfl, Nat.le_of_succ_le_succ h⟩

theorem Source.Allows.mono {depth more : Nat} {source : Source} (h : source.Allows more)
    (hle : depth ≤ more) : source.Allows depth := by
  cases source with
  | value => trivial
  | text levels => exact Nat.le_trans hle h

/-- What a codec writes for a value is read back where nesting to a depth is allowed, and holds no
number that is read as another. -/
structure Codec.ReadsBack {α : Type} (c : Codec α) (depth : Nat) (a : α) : Prop where
  decode_encode : ∀ source : Source, source.Allows depth →
    c.decode source (Tree.ofValue (c.encode a)) = .ok a
  legible : (c.encode a).Legible

/-- What a codec writes is read back where nesting to a depth is allowed, and holds no number that
is read as another. -/
structure Codec.Lawful {α : Type} (c : Codec α) (depth : Nat) : Prop where
  decode_encode : ∀ (source : Source) (a : α), source.Allows depth →
    c.decode source (Tree.ofValue (c.encode a)) = .ok a
  legible : ∀ a, (c.encode a).Legible

namespace Codec

variable {α β : Type} {c : Codec α} {depth : Nat}

/-- A lawful codec reads back every value. -/
theorem Lawful.readsBack (h : c.Lawful depth) (a : α) : c.ReadsBack depth a :=
  ⟨fun source => h.decode_encode source a, h.legible a⟩

/-- A codec that reads back every value is lawful. -/
theorem lawful_of_readsBack (h : ∀ a, c.ReadsBack depth a) : c.Lawful depth :=
  ⟨fun source a => (h a).decode_encode source, fun a => (h a).legible⟩

/-! ### Basic codecs -/

theorem lawful_text : text.Lawful depth := ⟨fun _ _ _ => rfl, fun _ => trivial⟩

theorem lawful_bool : bool.Lawful depth := ⟨fun _ _ _ => rfl, fun _ => trivial⟩

/-- A number below the bound is read as it is. -/
theorem decodeBelow_nat {n bound : Nat} (expected : String) (h : n < bound) :
    decodeBelow bound expected (Tree.ofValue (.nat n)) = .ok n := by
  have hrange : (0 : Int) ≤ (n : Int) ∧ (n : Int) < (bound : Int) :=
    ⟨Int.natCast_nonneg n, Int.ofNat_lt.2 h⟩
  exact if_pos hrange

theorem lawful_uint16 : uint16.Lawful depth where
  decode_encode source n _ := by
    unfold uint16
    dsimp only
    rw [decodeBelow_nat "u16" n.toNat_lt]
    exact congrArg Except.ok UInt16.ofNat_toNat
  legible n := by
    have hn := n.toNat_lt
    exact readsBack_int (by omega) (by omega)

/-- A 64-bit number is read back, whatever it is called where it is expected. -/
theorem decodeBelow_uint64 (expected : String) (n : UInt64) :
    (decodeBelow UInt64.size expected (Tree.ofValue (.nat n.toNat))).map UInt64.ofNat = .ok n := by
  rw [decodeBelow_nat expected n.toNat_lt]
  exact congrArg Except.ok UInt64.ofNat_toNat

theorem legible_uint64 (n : UInt64) : (Value.nat n.toNat).Legible := by
  have hn := n.toNat_lt
  exact readsBack_int (by omega) (by omega)

theorem lawful_uint64 : uint64.Lawful depth where
  decode_encode source n _ := by
    unfold uint64
    dsimp only
    rw [decodeBelow_uint64]
  legible := legible_uint64

theorem lawful_count : count.Lawful depth where
  decode_encode source n _ := by
    unfold count
    dsimp only
    rw [decodeBelow_uint64]
  legible := legible_uint64

theorem lawful_timestamp : timestamp.Lawful depth where
  decode_encode source t _ := by
    unfold timestamp
    dsimp only [Tree.ofValue]
    rw [Timestamp.read_text]
  legible _ := trivial

/-- Variants are read back if every name stands for its variant. -/
theorem lawful_variants {names : List (String × α)} {name : α → String}
    (h : ∀ a, names.lookup (name a) = some a) : (variants names name).Lawful depth where
  decode_encode source a _ := by
    have hvariant : decodeVariant names (name a) = .ok a := by rw [decodeVariant, h a]
    cases source with
    | value => exact hvariant
    | text levels => exact hvariant
  legible _ := trivial

/-! ### Combinators -/

theorem Lawful.mono {more : Nat} (h : c.Lawful depth) (hle : depth ≤ more) : c.Lawful more :=
  ⟨fun source a hs => h.decode_encode source a (hs.mono hle), h.legible⟩

theorem readsBack_none : c.option.ReadsBack depth none := ⟨fun _ _ => rfl, trivial⟩

/-- A value that may be absent is read back if its own form is not that of an absent one. -/
theorem readsBack_some {a : α} (h : c.ReadsBack depth a)
    (hnull : Tree.ofValue (c.encode a) ≠ .null) : c.option.ReadsBack depth (some a) where
  decode_encode source hs := by
    show c.option.decode source (Tree.ofValue (c.encode a)) = .ok (some a)
    unfold option
    dsimp only
    split
    · next heq => exact absurd heq hnull
    · rw [h.decode_encode source hs]
      rfl
  legible := h.legible

theorem lawful_option (h : c.Lawful depth) (hnull : ∀ a, Tree.ofValue (c.encode a) ≠ .null) :
    c.option.Lawful depth :=
  lawful_of_readsBack fun a => by
    cases a with
    | none => exact readsBack_none
    | some a => exact readsBack_some (h.readsBack a) (hnull a)

theorem lawful_optionText : text.option.Lawful depth :=
  lawful_option lawful_text fun _ => Tree.noConfusion

theorem lawful_optionTimestamp : timestamp.option.Lawful depth :=
  lawful_option lawful_timestamp fun _ => Tree.noConfusion

theorem decodeItems_map {source : Source} (hs : source.Allows depth) (xs : List α)
    (h : ∀ a ∈ xs, c.ReadsBack depth a) (index : Nat) :
    c.decodeItems source index (xs.map fun a => Tree.ofValue (c.encode a)) = .ok xs := by
  induction xs generalizing index with
  | nil => rfl
  | cons a xs ih =>
    obtain ⟨ha, hxs⟩ := List.forall_mem_cons.1 h
    rw [List.map_cons, decodeItems, ha.decode_encode source hs, ih hxs]
    rfl

theorem legible_items {vs : List Value} (h : ∀ v ∈ vs, v.Legible) : ItemsLegible vs := by
  induction vs with
  | nil => trivial
  | cons v vs ih =>
    obtain ⟨hv, hvs⟩ := List.forall_mem_cons.1 h
    exact ⟨hv, ih hvs⟩

/-- A list is read back if its items are, with one level more. -/
theorem readsBack_list {xs : List α} (h : ∀ a ∈ xs, c.ReadsBack depth a) :
    c.list.ReadsBack (depth + 1) xs where
  decode_encode source hs := by
    obtain ⟨inner, hinner, hallows⟩ := descend_of_allows hs
    have htree : Tree.ofValue (c.list.encode xs) =
        .array (xs.map fun a => Tree.ofValue (c.encode a)) .closed := by
      show Tree.ofValue (.array (xs.map c.encode)) = _
      rw [Tree.ofValue, Tree.ofItems_eq_map, List.map_map]
      rfl
    rw [htree]
    unfold list
    dsimp only
    rw [hinner]
    simp only [bind, Except.bind, decodeItems_map hallows xs h]
    rfl
  legible := legible_items fun v hv => by
    obtain ⟨a, ha, rfl⟩ := List.mem_map.1 hv
    exact (h a ha).legible

theorem lawful_list (h : c.Lawful depth) : c.list.Lawful (depth + 1) :=
  lawful_of_readsBack fun _ => readsBack_list fun a _ => h.readsBack a

/-- A change of type is read back if it can be undone. -/
theorem readsBack_iso {forth : α → β} {back : β → α} {b : β} (h : c.ReadsBack depth (back b))
    (hback : forth (back b) = b) : (c.iso forth back).ReadsBack depth b where
  decode_encode source hs := by
    show (c.decode source (Tree.ofValue (c.encode (back b)))).map forth = .ok b
    rw [h.decode_encode source hs]
    exact congrArg Except.ok hback
  legible := h.legible

theorem lawful_iso {forth : α → β} {back : β → α} (h : c.Lawful depth)
    (hback : ∀ b, forth (back b) = b) : (c.iso forth back).Lawful depth :=
  lawful_of_readsBack fun b => readsBack_iso (h.readsBack (back b)) (hback b)

end Codec

/-! ### Records -/

/-- The value of a field is read back if its codec does so, or if it is left out and stands for a
member that is not there. -/
structure Field.ReadsBack {α : Type} (field : Field α) (depth : Nat) (a : α) : Prop where
  codec : ¬ field.omits a → field.codec.ReadsBack depth a
  absence : field.omits a → field.absence = .fallback a ∨ field.absence = .inObjects a

/-- A field is read back if its codec is lawful and it leaves out only what stands for a member that
is not there. -/
structure Field.Lawful {α : Type} (field : Field α) (depth : Nat) : Prop where
  codec : field.codec.Lawful depth
  absence : ∀ a, field.omits a → field.absence = .fallback a ∨ field.absence = .inObjects a

namespace Field

variable {α : Type} {c : Codec α} {depth : Nat}

theorem Lawful.readsBack {field : Field α} (h : field.Lawful depth) (a : α) :
    field.ReadsBack depth a :=
  ⟨fun _ => h.codec.readsBack a, h.absence a⟩

/-- A field that is always written is read back if its codec does so. -/
theorem readsBack_written {field : Field α} {a : α} (h : field.codec.ReadsBack depth a)
    (hwritten : field.omits a = false) : field.ReadsBack depth a :=
  ⟨fun _ => h, fun homits => absurd (hwritten ▸ homits) Bool.false_ne_true⟩

theorem readsBack_omittable {name : String} {a : Option α} (h : c.option.ReadsBack depth a) :
    (omittable name c).ReadsBack depth a where
  codec _ := h
  absence ha := by
    cases a with
    | none => exact .inl rfl
    | some a => exact absurd ha Bool.false_ne_true

theorem lawful_required (name : String) (h : c.Lawful depth) : (required name c).Lawful depth :=
  ⟨h, fun _ hfalse => absurd hfalse Bool.false_ne_true⟩

theorem lawful_withDefault (name : String) (a : α) (h : c.Lawful depth) :
    (withDefault name c a).Lawful depth :=
  ⟨h, fun _ hfalse => absurd hfalse Bool.false_ne_true⟩

theorem lawful_nullable (name : String) (h : c.option.Lawful depth) :
    (nullable name c).Lawful depth :=
  ⟨h, fun _ hfalse => absurd hfalse Bool.false_ne_true⟩

theorem lawful_optional (name : String) (h : c.option.Lawful depth) :
    (optional name c).Lawful depth :=
  ⟨h, fun _ hfalse => absurd hfalse Bool.false_ne_true⟩

theorem lawful_omittable (name : String) (h : c.option.Lawful depth) :
    (omittable name c).Lawful depth :=
  ⟨h, fun a => (readsBack_omittable (h.readsBack a)).absence⟩

end Field

namespace Fields

variable {α β τ : Type} {field : Field α} {rest : Fields β} {depth : Nat} {source : Source}

/-- The names of the fields. -/
def names : {τ : Type} → Fields τ → List String
  | _, .done => []
  | _, .cons field rest => field.name :: rest.names

/-- The values of the fields of a record are read back. -/
def ReadsBack (depth : Nat) : {τ : Type} → Fields τ → τ → Prop
  | _, .done, _ => True
  | _, .cons field rest, (a, b) => field.ReadsBack depth a ∧ rest.ReadsBack depth b

/-- The fields of a record are read back if each is and no two have one name. -/
inductive Lawful (depth : Nat) : {τ : Type} → Fields τ → Prop where
  | done : Lawful depth .done
  | cons {α β : Type} {field : Field α} {rest : Fields β} (head : field.Lawful depth)
      (distinct : field.name ∉ rest.names) (tail : Lawful depth rest) :
      Lawful depth (.cons field rest)

theorem Lawful.readsBack {fs : Fields τ} (h : fs.Lawful depth) (x : τ) : fs.ReadsBack depth x := by
  induction h with
  | done => trivial
  | cons hfield _ _ ih => exact ⟨hfield.readsBack x.1, ih x.2⟩

theorem Lawful.nodup_names {fs : Fields τ} (h : fs.Lawful depth) : fs.names.Nodup := by
  induction h with
  | done => exact List.nodup_nil
  | cons _ hname _ ih => exact List.nodup_cons.2 ⟨hname, ih⟩

/-- The slot of the first field, with those of the others. -/
def slots (first : Option α) (later : rest.Slots) : (cons field rest).Slots := (first, later)

/-- The slots that the members of a record fill. -/
def slotsOf : {τ : Type} → (fs : Fields τ) → τ → fs.Slots
  | _, .done, _ => ()
  | _, .cons field _, (a, b) => slots (if field.omits a then none else some a) (slotsOf _ b)

theorem put_of_ne {name : String} (h : name ≠ field.name) (t : Tree) (first : Option α)
    (later : rest.Slots) : put source name t (.cons field rest) (slots first later) =
      (put source name t rest later).map fun r => r.map (slots first) :=
  if_neg h

theorem put_name {t : Tree} {a : α} (h : field.codec.decode source t = .ok a)
    (later : rest.Slots) : put source field.name t (.cons field rest) (slots none later) =
      some (.ok (slots (some a) later)) := by
  rw [put, if_pos rfl]
  dsimp only [slots]
  rw [h]

/-- The members of an object, as they are read. -/
def trees (members : List (String × Value)) : List (Option String × Tree) :=
  members.map fun m => (some m.1, Tree.ofValue m.2)

theorem trees_cons (name : String) (v : Value) (members : List (String × Value)) :
    trees ((name, v) :: members) = (some name, Tree.ofValue v) :: trees members := rfl

theorem name_mem_names (fs : Fields τ) (x : τ) : ∀ m ∈ fs.members x, m.1 ∈ fs.names := by
  induction fs with
  | done => exact fun _ hm => absurd hm List.not_mem_nil
  | cons field rest ih =>
    intro m hm
    rw [members] at hm
    split at hm
    · exact List.mem_cons_of_mem _ (ih x.2 m hm)
    · rcases List.mem_cons.1 hm with rfl | hm
      · exact List.mem_cons_self
      · exact List.mem_cons_of_mem _ (ih x.2 m hm)

theorem putAll_cons (fs : Fields τ) (slots : fs.Slots) (name : String) (t : Tree)
    (members : List (Option String × Tree)) :
    putAll source fs slots ((some name, t) :: members) =
      match fs.put source name t slots with
      | some (.ok slots) => putAll source fs slots members
      | some (.error e) => .error e
      | none => if t.isComplete then putAll source fs slots members else .error .malformed := by
  rfl

/-- Members with other names leave the slot of a field alone. -/
theorem putAll_of_forall_ne (first : Option α) (later : rest.Slots)
    (members : List (String × Value)) (h : ∀ m ∈ members, m.1 ≠ field.name) :
    putAll source (.cons field rest) (slots first later) (trees members) =
      (putAll source rest later (trees members)).map (slots first) := by
  induction members generalizing later with
  | nil => rfl
  | cons m members ih =>
    obtain ⟨name, v⟩ := m
    obtain ⟨hname, hmembers⟩ := List.forall_mem_cons.1 h
    rw [trees_cons, putAll_cons, putAll_cons, put_of_ne hname]
    cases hput : put source name (Tree.ofValue v) rest later with
    | none =>
      dsimp only [Option.map_none]
      split
      · exact ih later hmembers
      · rfl
    | some result =>
      cases result with
      | error e => rfl
      | ok next => exact ih next hmembers

/-- The members of a record fill their slots. -/
theorem putAll_members (hs : source.Allows depth) (fs : Fields τ) (hnames : fs.names.Nodup) (x : τ)
    (h : fs.ReadsBack depth x) :
    putAll source fs fs.noSlots (trees (fs.members x)) = .ok (fs.slotsOf x) := by
  induction fs with
  | done => rfl
  | cons field rest ih =>
    obtain ⟨a, b⟩ := x
    obtain ⟨hname, hrest⟩ := List.nodup_cons.1 hnames
    have ih := ih hrest b h.2
    have hne : ∀ m ∈ rest.members b, m.1 ≠ field.name :=
      fun m hm heq => hname (heq ▸ name_mem_names rest b m hm)
    -- The members of the other fields pass the first field by.
    have hempty : (cons field rest).noSlots = slots none rest.noSlots := rfl
    rw [members, hempty, slotsOf]
    split
    · rw [putAll_of_forall_ne none _ _ hne, ih]
      rfl
    · next homits =>
      have hput := put_name ((h.1.codec homits).decode_encode source hs) rest.noSlots
      rw [trees_cons, putAll_cons, hput]
      dsimp only
      rw [putAll_of_forall_ne (some a) _ _ hne, ih]
      rfl

theorem complete_later {later : rest.Slots} {b : β} (h : rest.complete later = .ok b) (a : α) :
    (do return (a, ← rest.complete later) : Reads (α × β)) = .ok (a, b) := by
  rw [h]
  rfl

theorem complete_some {later : rest.Slots} {b : β} (h : rest.complete later = .ok b) (a : α) :
    complete (.cons field rest) (slots (some a) later) = .ok (a, b) :=
  complete_later h a

/-- What stands for a missing member takes its place. -/
theorem complete_none {later : rest.Slots} {a : α} {b : β} (h : rest.complete later = .ok b)
    (habsence : field.absence = .fallback a ∨ field.absence = .inObjects a) :
    complete (.cons field rest) (slots none later) = .ok (a, b) := by
  obtain ⟨name, codec, absence, omits⟩ := field
  rcases habsence with rfl | rfl
  · exact complete_later h a
  · exact complete_later h a

/-- The slots that a record fills make it up, with what stands for the empty ones. -/
theorem complete_slotsOf (fs : Fields τ) (x : τ) (h : fs.ReadsBack depth x) :
    fs.complete (fs.slotsOf x) = .ok x := by
  induction fs with
  | done => rfl
  | cons field rest ih =>
    obtain ⟨a, b⟩ := x
    have ih := ih b h.2
    rw [slotsOf]
    split
    · next homits => exact complete_none ih (h.1.absence homits)
    · exact complete_some ih a

theorem legible_members (fs : Fields τ) (x : τ) (h : fs.ReadsBack depth x) :
    MembersLegible (fs.members x) := by
  induction fs with
  | done => trivial
  | cons field rest ih =>
    have ih := ih x.2 h.2
    rw [members]
    split
    · exact ih
    · next homits => exact ⟨(h.1.codec homits).legible, ih⟩

end Fields

namespace Codec

/-- A record is read back if its fields are and no two of them have one name. -/
theorem readsBack_record {τ : Type} (name : String) {fs : Fields τ} {depth : Nat} {x : τ}
    (hnames : fs.names.Nodup) (h : fs.ReadsBack depth x) :
    (record name fs).ReadsBack (depth + 1) x where
  decode_encode source hs := by
    obtain ⟨inner, hinner, hallows⟩ := descend_of_allows hs
    have htree : Tree.ofValue ((record name fs).encode x) =
        .object (Fields.trees (fs.members x)) .closed := by
      show Tree.ofValue (.object (fs.members x)) = _
      rw [Tree.ofValue, Tree.ofMembers_eq_map, Fields.trees]
    have hslots := Fields.putAll_members hallows fs hnames x h
    have hcomplete := Fields.complete_slotsOf fs x h
    rw [htree]
    unfold record
    dsimp only
    rw [hinner]
    simp only [bind, Except.bind, hslots, hcomplete]
    rfl
  legible := Fields.legible_members fs x h

/-- A record of lawful fields with distinct names is read back. -/
theorem lawful_record {τ : Type} (name : String) {fs : Fields τ} {depth : Nat}
    (h : fs.Lawful depth) : (record name fs).Lawful (depth + 1) :=
  lawful_of_readsBack fun x => readsBack_record name h.nodup_names (h.readsBack x)

section ReadWrite

variable {α : Type} {c : Codec α} {depth : Nat} {a : α}

/-- The text of a value is read as the value. -/
theorem ReadsBack.readFirst_write (h : c.ReadsBack depth a) (hdepth : depth ≤ maxDepth) :
    c.readFirst (Text.Utf8.encode (c.write a)) = .ok a := by
  unfold readFirst write
  rw [Tree.ofBytes_text h.legible]
  exact h.decode_encode (.text maxDepth) hdepth

/-- A text that a codec reads is the text of a tree that the codec reads. -/
theorem decode_of_read {bytes : Text.Utf8.Bytes} (h : c.read bytes = .ok a) :
    ∃ t, Tree.ofBytes bytes = (t, false) ∧ c.decode (.text maxDepth) t = .ok a := by
  unfold read at h
  generalize Tree.ofBytes bytes = tree at h
  obtain ⟨t, trailing⟩ := tree
  obtain ⟨b, hb, h⟩ := bind_eq_ok.1 h
  split at h
  · cases h
  · next htrailing =>
    obtain rfl := Except.ok.inj h
    exact ⟨t, congrArg _ (Bool.eq_false_iff.2 htrailing), hb⟩

/-- What a codec makes of a document is what it reads from the text of the document. -/
theorem read_text {v : Value} (hlegible : v.Legible)
    (h : c.decode (.text maxDepth) (Tree.ofValue v) = .ok a) :
    c.read (Text.Utf8.encode v.text) = .ok a := by
  unfold read
  rw [Tree.ofBytes_text hlegible]
  simp only [bind, Except.bind, h]
  rfl

/-- The text of a value is also read as the value where nothing else may follow. -/
theorem ReadsBack.read_write (h : c.ReadsBack depth a) (hdepth : depth ≤ maxDepth) :
    c.read (Text.Utf8.encode (c.write a)) = .ok a :=
  read_text h.legible (h.decode_encode (.text maxDepth) hdepth)

theorem Lawful.read_write (h : c.Lawful depth) (hdepth : depth ≤ maxDepth) (a : α) :
    c.read (Text.Utf8.encode (c.write a)) = .ok a :=
  (h.readsBack a).read_write hdepth

end ReadWrite

end Codec

end PipelineConsole.Json
