import PipelineConsole.Proofs.Json.Codec
import PipelineConsole.Proofs.Json.ReadRecord

/-!
# When objects are read as records

Reading an object fills one field after the other, in the order of the text. Whether it is read does
not depend on that order: each field may be looked at for itself, with the members of its name, and
what no field is called is left for the end. A field takes one member at most.

## Main definitions

* `membersNamed`, `membersOther` — the members of an object with a name, and the others
* `Field.Fills` — what members put into the slot of a field

## Main results

* `Fields.putAll_slots_iff` — the first field, and then the others
* `Field.fills_none_iff` — an empty slot takes one member, or stays empty
* `Codec.record_object_iff` — when an object is read as a record
* `Codec.table_iff` — when a value is read as a table
-/

namespace PipelineConsole.Json

/-- The members of an object as they are in a text; a name may be unreadable. -/
abbrev Members := List (Option String × Tree)

/-- The values of the members with a name. -/
def membersNamed (name : String) (members : Members) : List Tree :=
  members.filterMap fun m => if m.1 = some name then some m.2 else none

/-- The members without those with a name. -/
def membersOther (name : String) (members : Members) : Members :=
  members.filter fun m => m.1 ≠ some name

section Named

variable {name other : String} {m : Option String × Tree} {members : Members}

theorem membersNamed_cons_self (t : Tree) :
    membersNamed name ((some name, t) :: members) = t :: membersNamed name members := by
  simp [membersNamed]

theorem membersOther_cons_self (t : Tree) :
    membersOther name ((some name, t) :: members) = membersOther name members := by
  simp [membersOther]

theorem membersNamed_cons_of_ne (h : m.1 ≠ some name) :
    membersNamed name (m :: members) = membersNamed name members := by
  simp [membersNamed, h]

theorem membersOther_cons_of_ne (h : m.1 ≠ some name) :
    membersOther name (m :: members) = m :: membersOther name members := by
  simp [membersOther, h]

/-- Leaving out other members leaves those with a name. -/
theorem membersNamed_membersOther (h : other ≠ name) :
    membersNamed name (membersOther other members) = membersNamed name members := by
  induction members with
  | nil => rfl
  | cons m members ih =>
    by_cases hm : m.1 = some other
    · have hne : m.1 ≠ some name := fun heq => h (Option.some.inj (hm.symm.trans heq))
      rw [membersNamed_cons_of_ne hne, ← ih]
      simp [membersOther, hm]
    · rw [membersOther_cons_of_ne hm]
      simp only [membersNamed, List.filterMap_cons] at ih ⊢
      rw [ih]

theorem mem_membersOther : m ∈ membersOther name members ↔ m ∈ members ∧ m.1 ≠ some name := by
  simp [membersOther]

end Named

/-! ### Fields -/

variable {α β τ : Type} {source : Source}

/-- What the members of its name put into the slot of a field. -/
def Field.Fills (source : Source) (field : Field α) : Option α → List Tree → Option α → Prop
  | slot, [], last => last = slot
  | slot, t :: rest, last =>
    slot = none ∧ ∃ a, field.codec.decode source t = .ok a ∧ field.Fills source (some a) rest last

/-- An empty slot takes one member, or stays empty. -/
theorem Field.fills_none_iff {field : Field α} {trees : List Tree} {last : Option α} :
    field.Fills source none trees last ↔
      trees = [] ∧ last = none ∨
        ∃ t a, trees = [t] ∧ field.codec.decode source t = .ok a ∧ last = some a := by
  match trees with
  | [] => simp [Fills]
  | [t] => simp [Fills]
  | t :: next :: rest => simp [Fills]

namespace Fields

variable {field : Field α} {rest : Fields β}

/-- Members with another name pass a field by. -/
theorem putAll_cons_of_ne {name : String} (h : name ≠ field.name) (t : Tree) (first : Option α)
    (later : rest.Slots) (members : Members) :
    putAll source (.cons field rest) (slots first later) ((some name, t) :: members) =
      match put source name t rest later with
      | some (.ok later) => putAll source (.cons field rest) (slots first later) members
      | some (.error e) => .error e
      | none =>
        if t.isComplete then putAll source (.cons field rest) (slots first later) members
        else .error .malformed := by
  rw [putAll_cons, put_of_ne h]
  cases put source name t rest later with
  | none => rfl
  | some result => cases result <;> rfl

/-- The first field is filled by the members of its name, and the others by the others. -/
theorem putAll_slots_iff {members : Members} {first last : Option α} {later latest : rest.Slots} :
    putAll source (.cons field rest) (slots first later) members = .ok (slots last latest) ↔
      field.Fills source first (membersNamed field.name members) last ∧
        putAll source rest later (membersOther field.name members) = .ok latest := by
  -- Over the members, for any slots: one member may change what the next ones meet.
  induction members generalizing first later with
  | nil =>
    show Except.ok (slots first later) = .ok (slots last latest) ↔
      last = first ∧ Except.ok later = .ok latest
    rw [Except.ok.injEq, Except.ok.injEq]
    constructor
    · intro h
      obtain ⟨rfl, rfl⟩ := Prod.mk.inj h
      exact ⟨rfl, rfl⟩
    · rintro ⟨rfl, rfl⟩
      rfl
  | cons m members ih =>
    obtain ⟨name, t⟩ := m
    cases name with
    | none =>
      have hne : (none, t).1 ≠ some field.name := (Option.some_ne_none _).symm
      rw [membersOther_cons_of_ne hne]
      constructor
      · intro h
        cases h
      · rintro ⟨-, h⟩
        cases h
    | some name =>
      by_cases hname : name = field.name
      · subst hname
        rw [membersNamed_cons_self, membersOther_cons_self, putAll_cons, put, if_pos rfl]
        cases first with
        | some a => simp only [Field.Fills, slots, misfit, reduceCtorEq, false_and]
        | none =>
          dsimp only [slots, Field.Fills]
          cases hdecode : field.codec.decode source t with
          | error e => simp only [reduceCtorEq, false_and, exists_false, and_false]
          | ok a =>
            have hrest := @ih (some a) later
            simpa [slots] using hrest
      · have hne : (some name, t).1 ≠ some field.name := fun heq => hname (Option.some.inj heq)
        rw [membersNamed_cons_of_ne hne, membersOther_cons_of_ne hne, putAll_cons_of_ne hname,
          putAll_cons]
        cases put source name t rest later with
        | some result =>
          cases result with
          | error e => simp only [reduceCtorEq, and_false]
          | ok next => exact ih
        | none =>
          dsimp only
          split
          · exact ih
          · simp only [reduceCtorEq, and_false]

/-- Members that belong to no field must have names, and keep the grammar. -/
theorem putAll_done_iff {later latest : Fields.done.Slots} {members : Members} :
    putAll source .done later members = .ok latest ↔
      ∀ m ∈ members, m.1 ≠ none ∧ m.2.isComplete = true := by
  induction members with
  | nil => exact ⟨nofun, fun _ => rfl⟩
  | cons m members ih =>
    obtain ⟨name, t⟩ := m
    rw [List.forall_mem_cons, ← ih]
    cases name with
    | none => exact ⟨nofun, fun h => absurd rfl h.1.1⟩
    | some name =>
      have hput : put source name t .done later = none := rfl
      rw [putAll_cons, hput]
      dsimp only
      split
      · next h => exact ⟨fun hrest => ⟨⟨nofun, h⟩, hrest⟩, And.right⟩
      · next h => exact ⟨nofun, fun hall => absurd hall.1.2 h⟩

end Fields

/-! ### Codecs -/

namespace Codec

/-- A text is read from nothing but itself. -/
theorem text_iff {t : Tree} {s : String} : text.decode source t = .ok s ↔ t = .string (some s) := by
  constructor
  · intro h
    unfold text at h
    dsimp only at h
    split at h
    · rw [Except.ok.inj h]
    · exact absurd h wrongKind_ne_ok
  · rintro rfl
    rfl

/-- A small number is read from nothing but itself. -/
theorem uint16_iff {t : Tree} {n : UInt16} :
    uint16.decode source t = .ok n ↔ t = .number (some (.int n.toNat)) := by
  show (decodeBelow UInt16.size "u16" t).map UInt16.ofNat = .ok n ↔ _
  rw [map_eq_ok]
  constructor
  · rintro ⟨k, hk, rfl⟩
    unfold decodeBelow at hk
    split at hk
    · next i =>
      split at hk
      · next hbounds =>
        obtain rfl := Except.ok.inj hk
        have hsize : UInt16.size = 65536 := rfl
        have hnat : (UInt16.ofNat i.toNat).toNat = i.toNat :=
          UInt16.toNat_ofNat_of_lt' (by omega)
        rw [hnat, Int.toNat_of_nonneg hbounds.1]
      · cases hk
    · exact absurd hk wrongKind_ne_ok
  · rintro rfl
    have hlt := n.toNat_lt_size
    refine ⟨n.toNat, ?_, UInt16.ofNat_toNat⟩
    rw [decodeBelow, if_pos ⟨by omega, by omega⟩, Int.toNat_natCast]

/-- A value that may be absent is read from `null`, and from what it is read from itself. -/
theorem exists_option_iff {c : Codec α} {t : Tree} :
    (∃ o, c.option.decode source t = .ok o) ↔ t = .null ∨ ∃ a, c.decode source t = .ok a := by
  by_cases h : t = .null
  · subst h
    exact ⟨fun _ => .inl rfl, fun _ => ⟨none, rfl⟩⟩
  · have hdecode : c.option.decode source t = (c.decode source t).map some := by
      cases t with
      | null => exact absurd rfl h
      | _ => rfl
    rw [hdecode, or_iff_right h]
    constructor
    · rintro ⟨o, ho⟩
      obtain ⟨a, ha, -⟩ := map_eq_ok.1 ho
      exact ⟨a, ha⟩
    · rintro ⟨a, ha⟩
      exact ⟨some a, map_eq_ok.2 ⟨a, ha, rfl⟩⟩

theorem memberValues?_isSome_iff {members : Members} :
    (memberValues? source members).isSome ↔
      ∀ m ∈ members, m.1.isSome ∧ (m.2.value? source).isSome := by
  induction members with
  | nil => simp [memberValues?]
  | cons m members ih =>
    obtain ⟨name, t⟩ := m
    rw [List.forall_mem_cons, ← ih, memberValues?]
    cases name <;> cases t.value? source <;> cases memberValues? source members <;> simp

theorem decodeMembers_iff {members : Members} {soFar : List (String × Value)} :
    (∃ d, decodeMembers source members soFar = .ok d) ↔
      ∀ m ∈ members, m.1.isSome ∧ (m.2.value? source).isSome := by
  induction members generalizing soFar with
  | nil => simp [decodeMembers]
  | cons m members ih =>
    obtain ⟨name, t⟩ := m
    rw [List.forall_mem_cons]
    cases name with
    | none => simp [decodeMembers]
    | some name =>
      cases hv : t.value? source with
      | none => simp [decodeMembers, hv]
      | some v =>
        simp only [decodeMembers, hv, ih, Option.isSome_some, true_and]

/-- An object is read as a table if it is read as an opaque document. -/
theorem table_object_iff {levels : Nat} {members : Members} {ending : Ending} :
    (∃ d, table.decode (.text levels) (.object members ending) = .ok d) ↔
      ((Tree.object members ending).value? (.text levels)).isSome := by
  cases levels with
  | zero =>
    constructor
    · rintro ⟨d, h⟩
      cases h
    · intro h
      cases h
  | succ levels =>
    have hdecode : table.decode (.text (levels + 1)) (.object members ending) =
        (decodeMembers (.text levels) members [] >>= fun d =>
          ended ending >>= fun _ => .ok d) := rfl
    have hvalue : (Tree.object members ending).value? (.text (levels + 1)) =
        if ending = .closed then (memberValues? (.text levels) members).map .ofMembers
        else none := by
      simp only [Tree.value?, descend]
    rw [hdecode, hvalue]
    by_cases hending : ending = .closed
    · rw [if_pos hending, Option.isSome_map, memberValues?_isSome_iff,
        ← @decodeMembers_iff _ _ [], ended, if_pos hending]
      constructor
      · rintro ⟨d, hd⟩
        obtain ⟨found, hfound, -⟩ := bind_eq_ok.1 hd
        exact ⟨found, hfound⟩
      · rintro ⟨d, hd⟩
        exact ⟨d, bind_eq_ok.2 ⟨d, hd, rfl⟩⟩
    · rw [if_neg hending, ended, if_neg hending]
      constructor
      · rintro ⟨d, hd⟩
        obtain ⟨_, -, hd⟩ := bind_eq_ok.1 hd
        cases hd
      · intro h
        cases h

/-- A table is read from an object only. -/
theorem table_iff {levels : Nat} {t : Tree} :
    (∃ d, table.decode (.text levels) t = .ok d) ↔
      (∃ members ending, t = .object members ending) ∧ (t.value? (.text levels)).isSome := by
  have hother {d : List (String × Value)} : wrongKind t "a map" ≠ .ok d := wrongKind_ne_ok
  cases t with
  | object members ending =>
    rw [table_object_iff]
    exact ⟨fun h => ⟨⟨members, ending, rfl⟩, h⟩, And.right⟩
  | _ =>
    constructor
    · rintro ⟨d, hd⟩
      exact absurd hd hother
    · rintro ⟨⟨_, _, h⟩, -⟩
      cases h

/-- An object of a text is read as a record if its members fill the fields. -/
theorem record_object_iff {name : String} {fs : Fields τ} {levels : Nat} {members : Members}
    {x : τ} :
    (record name fs).decode (.text (levels + 1)) (.object members .closed) = .ok x ↔
      ∃ last, fs.putAll (.text levels) fs.noSlots members = .ok last ∧
        fs.complete last = .ok x := by
  show (fs.putAll (.text levels) fs.noSlots members >>= fun slots =>
    ended .closed >>= fun _ => fs.complete slots) = .ok x ↔ _
  rw [bind_eq_ok]
  rfl

end Codec

end PipelineConsole.Json
