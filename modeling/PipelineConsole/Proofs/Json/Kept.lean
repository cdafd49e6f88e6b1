import Mathlib.Data.List.Nodup
import PipelineConsole.Proofs.Json.Codec
import PipelineConsole.Table

/-!
# Opaque documents

An opaque document is kept as it was read, up to the order of the members of its objects. It is read
back as it is kept: it is nested no deeper than the text that it came from, and sorting what is
sorted changes nothing.

## Main definitions

* `Value.SortedMembers` — members in the order of their names
* `Value.Kept` — documents as they are kept

## Main results

* `kept_of_value?` — what is read from a text is kept
* `value?_of_kept` — what is kept is read as it is
* `Codec.decode_table_of_perm` — the members of a table may be written in any order
* `Codec.readsBack_opaqueValue`, `Codec.readsBack_table` — in terms of codecs
-/

namespace PipelineConsole.Json

namespace Value

/-! ### Sorted members -/

/-- The members are sorted by name, and no two of them have one name. -/
def SortedMembers (members : List (String × Value)) : Prop :=
  (members.map Prod.fst).Pairwise (· < ·)

section Members

variable {name other : String} {v : Value} {members : List (String × Value)}

theorem lookup_insertMember (name other : String) (v : Value) (members : List (String × Value)) :
    (insertMember name v members).lookup other =
      if other = name then some v else members.lookup other := by
  induction members with
  | nil => rw [insertMember, Table.lookup_cons]
  | cons m rest ih =>
    obtain ⟨n, w⟩ := m
    rw [insertMember]
    split
    · rw [Table.lookup_cons]
    · split
      · next heq =>
        subst heq
        rw [Table.lookup_cons, Table.lookup_cons]
        split <;> rfl
      · next hne =>
        rw [Table.lookup_cons, Table.lookup_cons, ih]
        by_cases h : other = n
        · rw [if_pos h, if_pos h, if_neg fun heq => hne (heq.symm.trans h)]
        · rw [if_neg h, if_neg h]

/-- Members with other names leave the one of a name alone. -/
theorem lookup_foldl_insertMember {before : List (String × Value)}
    (h : ∀ m ∈ members, m.1 ≠ name) :
    (members.foldl (fun acc m => insertMember m.1 m.2 acc) before).lookup name =
      before.lookup name := by
  induction members generalizing before with
  | nil => rfl
  | cons m members ih =>
    obtain ⟨hm, hmembers⟩ := List.forall_mem_cons.1 h
    rw [List.foldl_cons, ih hmembers, lookup_insertMember, if_neg hm.symm]

/-- The first member is there if no other has its name. -/
theorem get?_ofMembers_cons (h : ∀ m ∈ members, m.1 ≠ name) :
    (ofMembers ((name, v) :: members)).get? name = some v := by
  rw [ofMembers, get?, List.foldl_cons, lookup_foldl_insertMember h, lookup_insertMember,
    if_pos rfl]

theorem mem_insertMember {m : String × Value} (h : m ∈ insertMember name v members) :
    m = (name, v) ∨ m ∈ members := by
  induction members with
  | nil => exact .inl (List.mem_singleton.1 h)
  | cons first rest ih =>
    rw [insertMember] at h
    split at h
    · exact List.mem_cons.1 h
    · split at h
      · exact (List.mem_cons.1 h).imp_right (List.mem_cons_of_mem _)
      · rcases List.mem_cons.1 h with rfl | h
        · exact .inr List.mem_cons_self
        · exact (ih h).imp_right (List.mem_cons_of_mem _)

/-- Putting a member in its place keeps the members sorted. -/
theorem SortedMembers.insert (h : SortedMembers members) :
    SortedMembers (insertMember name v members) := by
  induction members with
  | nil => exact List.pairwise_singleton _ _
  | cons first rest ih =>
    obtain ⟨n, w⟩ := first
    obtain ⟨hfirst, hrest⟩ := List.pairwise_cons.1 h
    rw [insertMember]
    split
    · next hlt =>
      refine List.pairwise_cons.2 ⟨fun other hother => ?_, h⟩
      rcases List.mem_cons.1 hother with rfl | hother
      · exact hlt
      · exact String.lt_trans hlt (hfirst other hother)
    · next hnot =>
      split
      · next heq =>
        exact List.pairwise_cons.2 ⟨fun other hother => heq ▸ hfirst other hother, hrest⟩
      · next hne =>
        have hlt : n < name := Decidable.byContradiction fun hge =>
          hne (String.le_antisymm (String.not_lt.1 hge) (String.not_lt.1 hnot))
        refine List.pairwise_cons.2 ⟨fun other hother => ?_, ih hrest⟩
        obtain ⟨m, hm, rfl⟩ := List.mem_map.1 hother
        rcases mem_insertMember hm with rfl | hm
        · exact hlt
        · exact hfirst m.1 (List.mem_map_of_mem hm)

/-- A member whose name comes after all others is put at the end. -/
theorem insertMember_of_forall_lt (h : ∀ m ∈ members, m.1 < name) :
    insertMember name v members = members ++ [(name, v)] := by
  induction members with
  | nil => rfl
  | cons first rest ih =>
    obtain ⟨hfirst, hrest⟩ := List.forall_mem_cons.1 h
    have hnot : ¬ name < first.1 := String.lt_asymm hfirst
    have hne : name ≠ first.1 := fun heq => String.lt_irrefl name (heq ▸ hfirst)
    rw [insertMember, if_neg hnot, if_neg hne, ih hrest, List.cons_append]

/-- Sorted members stay where they are when they are sorted. -/
theorem foldl_insertMember_of_sorted (before : List (String × Value))
    {after : List (String × Value)}
    (h : SortedMembers (before ++ after)) :
    after.foldl (fun acc m => insertMember m.1 m.2 acc) before = before ++ after := by
  induction after generalizing before with
  | nil => exact (List.append_nil before).symm
  | cons m after ih =>
    have hlast : ∀ other ∈ before, other.1 < m.1 := by
      intro other hother
      rw [SortedMembers, List.map_append, List.pairwise_append] at h
      exact h.2.2 other.1 (List.mem_map_of_mem hother) m.1 List.mem_cons_self
    have hsplit : before ++ m :: after = (before ++ [m]) ++ after := by simp
    rw [List.foldl_cons, insertMember_of_forall_lt hlast, ih _ (hsplit ▸ h), hsplit]

/-- It does not matter which of two members with different names is put in its place first. -/
theorem insertMember_comm (hne : name ≠ other) (v w : Value) (members : List (String × Value)) :
    insertMember other w (insertMember name v members) =
      insertMember name v (insertMember other w members) := by
  induction members with
  | nil =>
    simp only [insertMember]
    grind [String.lt_asymm, String.le_antisymm]
  | cons m rest ih =>
    -- The names are compared with that of the first member, and with each other.
    simp only [insertMember]
    grind [insertMember, String.lt_trans, String.lt_irrefl, String.lt_asymm, String.le_antisymm]

/-- Members that come in another order are sorted into the same one. -/
theorem foldl_insertMember_of_perm {written : List (String × Value)} (h : SortedMembers members)
    (hperm : written.Perm members) :
    written.foldl (fun acc m => insertMember m.1 m.2 acc) [] = members := by
  have hnodup : (written.map Prod.fst).Nodup :=
    (hperm.map Prod.fst).nodup_iff.2 (List.Pairwise.imp String.ne_of_lt h)
  have hcomm (m) (hm : m ∈ written) (n) (hn : n ∈ written) (acc : List (String × Value)) :
      insertMember n.1 n.2 (insertMember m.1 m.2 acc) =
        insertMember m.1 m.2 (insertMember n.1 n.2 acc) := by
    by_cases hname : m.1 = n.1
    · rw [List.inj_on_of_nodup_map hnodup hm hn hname]
    · exact insertMember_comm hname m.2 n.2 acc
  exact (hperm.foldl_eq' hcomm []).trans (foldl_insertMember_of_sorted [] h)

theorem ofMembers_of_sorted (h : SortedMembers members) : ofMembers members = .object members :=
  congrArg Value.object (foldl_insertMember_of_sorted [] h)

/-- Sorting members that are put in their places one after another keeps what holds of all. -/
theorem foldl_insertMember {P : String × Value → Prop} {before after : List (String × Value)}
    (hsorted : SortedMembers before) (hbefore : ∀ m ∈ before, P m) (hafter : ∀ m ∈ after, P m) :
    let all := after.foldl (fun acc m => insertMember m.1 m.2 acc) before
    SortedMembers all ∧ ∀ m ∈ all, P m := by
  induction after generalizing before with
  | nil => exact ⟨hsorted, hbefore⟩
  | cons m after ih =>
    obtain ⟨hm, hafter⟩ := List.forall_mem_cons.1 hafter
    refine ih hsorted.insert (fun other hother => ?_) hafter
    rcases mem_insertMember hother with rfl | hother
    · exact hm
    · exact hbefore other hother

end Members

/-! ### Documents as they are kept -/

/-- A document as it is kept: nested to a depth at most, and with sorted members. -/
def Kept : (depth : Nat) → Value → Prop
  | depth + 1, .array items => ∀ v ∈ items, Kept depth v
  | depth + 1, .object members => SortedMembers members ∧ ∀ m ∈ members, Kept depth m.2
  | 0, .array _ | 0, .object _ => False
  | _, _ => True

section Plain

variable {depth : Nat}

theorem Kept.null : null.Kept depth := by cases depth <;> trivial

theorem Kept.bool {b : Bool} : (bool b).Kept depth := by cases depth <;> trivial

theorem Kept.number {n : Number} : (number n).Kept depth := by cases depth <;> trivial

theorem Kept.string {s : String} : (string s).Kept depth := by cases depth <;> trivial

end Plain

theorem Kept.mono {depth more : Nat} {v : Value} (h : v.Kept depth) (hle : depth ≤ more) :
    v.Kept more := by
  induction depth generalizing v more with
  | zero => cases v <;> first | exact h.elim | cases more <;> trivial
  | succ depth ih =>
    obtain ⟨more, rfl⟩ : ∃ n, more = n + 1 := ⟨more - 1, by omega⟩
    have hle : depth ≤ more := by omega
    cases v with
    | array items => exact fun w hw => ih (h w hw) hle
    | object members => exact ⟨h.1, fun m hm => ih (h.2 m hm) hle⟩
    | _ => trivial

/-- What a kept document holds under a name is kept. -/
theorem Kept.get? {depth : Nat} {v w : Value} {name : String} (h : v.Kept depth)
    (hget : v.get? name = some w) : w.Kept depth := by
  cases v with
  | object members =>
    obtain ⟨m, hm, rfl⟩ : ∃ m ∈ members, m.2 = w := by
      obtain ⟨before, after, rfl, -⟩ := List.lookup_eq_some_iff.1 hget
      exact ⟨(name, w), by simp, rfl⟩
    cases depth with
    | zero => exact h.elim
    | succ depth => exact (h.2 m hm).mono (Nat.le_succ depth)
  | _ => cases hget

end Value

/-! ### Reading -/

theorem mem_itemValues? {source : Source} {items : List Tree} {vs : List Value}
    (h : itemValues? source items = some vs) : ∀ v ∈ vs, ∃ t, Tree.value? source t = some v := by
  induction items generalizing vs with
  | nil =>
    obtain rfl := Option.some.inj h
    exact fun v hv => absurd hv List.not_mem_nil
  | cons t items ih =>
    simp only [itemValues?, Option.bind_eq_bind, Option.bind_eq_some_iff] at h
    obtain ⟨v, hv, rest, hrest, heq⟩ := h
    obtain rfl := Option.some.inj heq
    exact List.forall_mem_cons.2 ⟨⟨t, hv⟩, ih hrest⟩

theorem mem_memberValues? {source : Source} {trees : List (Option String × Tree)}
    {members : List (String × Value)} (h : memberValues? source trees = some members) :
    ∀ m ∈ members, ∃ t ∈ trees, t.2.value? source = some m.2 := by
  induction trees generalizing members with
  | nil =>
    obtain rfl := Option.some.inj h
    exact fun v hv => absurd hv List.not_mem_nil
  | cons t trees ih =>
    simp only [memberValues?, Option.bind_eq_bind, Option.bind_eq_some_iff] at h
    obtain ⟨name, -, v, hv, rest, hrest, heq⟩ := h
    obtain rfl := Option.some.inj heq
    refine List.forall_mem_cons.2 ⟨⟨t, List.mem_cons_self, hv⟩, fun m hm => ?_⟩
    obtain ⟨u, hu, hm⟩ := ih hrest m hm
    exact ⟨u, List.mem_cons_of_mem _ hu, hm⟩

/-- What is read from a text is kept. -/
theorem kept_of_value? {levels : Nat} {t : Tree} {v : Value}
    (h : t.value? (.text levels) = some v) : v.Kept levels := by
  -- Each level of nesting uses up one of those that are left.
  induction levels generalizing t v with
  | zero =>
    cases t with
    | null | bool => cases h; trivial
    | number | string =>
      obtain ⟨_, -, rfl⟩ := Option.map_eq_some_iff.1 h
      trivial
    | fault | array | object => cases h
  | succ levels ih =>
    cases t with
    | fault => cases h
    | null | bool => cases h; trivial
    | number | string =>
      obtain ⟨_, -, rfl⟩ := Option.map_eq_some_iff.1 h
      trivial
    | array items ending =>
      simp only [Tree.value?, descend] at h
      split at h
      · obtain ⟨vs, hvs, rfl⟩ := Option.map_eq_some_iff.1 h
        intro v hv
        obtain ⟨t, ht⟩ := mem_itemValues? hvs v hv
        exact ih ht
      · cases h
    | object trees ending =>
      simp only [Tree.value?, descend] at h
      split at h
      · obtain ⟨members, hmembers, rfl⟩ := Option.map_eq_some_iff.1 h
        refine Value.foldl_insertMember List.Pairwise.nil (fun _ hm => absurd hm List.not_mem_nil)
          fun m hm => ?_
        obtain ⟨t, -, ht⟩ := mem_memberValues? hmembers m hm
        exact ih ht
      · cases h

theorem itemValues?_map {source : Source} {vs : List Value}
    (h : ∀ v ∈ vs, (Tree.ofValue v).value? source = some v) :
    itemValues? source (vs.map Tree.ofValue) = some vs := by
  induction vs with
  | nil => rfl
  | cons v vs ih =>
    obtain ⟨hv, hvs⟩ := List.forall_mem_cons.1 h
    rw [List.map_cons, itemValues?, hv, ih hvs]
    rfl

theorem memberValues?_map {source : Source} {members : List (String × Value)}
    (h : ∀ m ∈ members, (Tree.ofValue m.2).value? source = some m.2) :
    memberValues? source (members.map fun m => (some m.1, Tree.ofValue m.2)) = some members := by
  induction members with
  | nil => rfl
  | cons m members ih =>
    obtain ⟨hm, hmembers⟩ := List.forall_mem_cons.1 h
    rw [List.map_cons, memberValues?, hm, ih hmembers]
    rfl

/-- An object is read as its sorted members if the values of these are read as they are. -/
theorem value?_object {depth : Nat} {source : Source} {members : List (String × Value)}
    (hs : source.Allows (depth + 1))
    (h : ∀ inner : Source, inner.Allows depth →
      ∀ m ∈ members, (Tree.ofValue m.2).value? inner = some m.2) :
    (Tree.ofValue (.object members)).value? source = some (.ofMembers members) := by
  obtain ⟨inner, hinner, hallows⟩ := descend_of_allows hs
  rw [Tree.ofValue, Tree.ofMembers_eq_map, Tree.value?]
  simp only [hinner, if_true, memberValues?_map (h inner hallows), Option.map_some]

/-- What is kept is read as it is, where nesting to its depth is allowed. -/
theorem value?_of_kept {depth : Nat} {v : Value} {source : Source} (h : v.Kept depth)
    (hs : source.Allows depth) : (Tree.ofValue v).value? source = some v := by
  induction depth generalizing v source with
  | zero => cases v <;> first | exact h.elim | rfl
  | succ depth ih =>
    cases v with
    | array items =>
      obtain ⟨inner, hinner, hallows⟩ := descend_of_allows hs
      rw [Tree.ofValue, Tree.ofItems_eq_map, Tree.value?]
      simp only [hinner, if_true, itemValues?_map fun v hv => ih (h v hv) hallows, Option.map_some]
    | object members =>
      rw [value?_object hs fun inner hinner m hm => ih (h.2 m hm) hinner,
        Value.ofMembers_of_sorted h.1]
    | _ => rfl

/-- The members of a table are read into a sorted list. -/
theorem Codec.decodeMembers_map {source : Source} {members : List (String × Value)}
    (soFar : List (String × Value))
    (h : ∀ m ∈ members, (Tree.ofValue m.2).value? source = some m.2) :
    decodeMembers source (members.map fun m => (some m.1, Tree.ofValue m.2)) soFar =
      .ok (members.foldl (fun acc m => Value.insertMember m.1 m.2 acc) soFar) := by
  induction members generalizing soFar with
  | nil => rfl
  | cons m members ih =>
    obtain ⟨hm, hmembers⟩ := List.forall_mem_cons.1 h
    simp only [List.map_cons, decodeMembers, hm]
    exact ih _ hmembers

theorem Codec.legible_members {members : List (String × Value)} :
    MembersLegible members ↔ ∀ m ∈ members, m.2.Legible := by
  induction members with
  | nil => exact iff_of_true trivial fun m hm => absurd hm List.not_mem_nil
  | cons m members ih => rw [List.forall_mem_cons, ← ih, MembersLegible]

/-- In whatever order the members of a table are written, they are read into a sorted list. -/
theorem Codec.decode_table_of_perm {depth : Nat} {members written : List (String × Value)}
    {source : Source} (hsorted : Value.SortedMembers members)
    (hkept : ∀ m ∈ members, m.2.Kept depth) (hperm : written.Perm members)
    (hs : source.Allows (depth + 1)) :
    table.decode source (Tree.ofValue (.object written)) = .ok members := by
  obtain ⟨inner, hinner, hallows⟩ := descend_of_allows hs
  have hmembers := decodeMembers_map [] fun m hm =>
    value?_of_kept (hkept m (hperm.mem_iff.1 hm)) hallows
  have hnothing := Value.foldl_insertMember_of_perm hsorted hperm
  rw [Tree.ofValue, Tree.ofMembers_eq_map]
  unfold table
  dsimp only
  rw [hinner]
  simp only [bind, Except.bind, hmembers, hnothing]
  rfl

/-- A sorted table of kept documents is read back. -/
theorem Codec.readsBack_table {depth : Nat} {members : List (String × Value)}
    (hsorted : Value.SortedMembers members) (hkept : ∀ m ∈ members, m.2.Kept depth)
    (hlegible : ∀ m ∈ members, m.2.Legible) : table.ReadsBack (depth + 1) members where
  decode_encode _ hs := decode_table_of_perm hsorted hkept (.refl members) hs
  legible := legible_members.2 hlegible

/-- A kept document is read back. -/
theorem Codec.readsBack_opaqueValue {depth : Nat} {v : Value} (h : v.Kept depth)
    (hlegible : v.Legible) : opaqueValue.ReadsBack depth v where
  decode_encode source hs := by
    unfold opaqueValue
    dsimp only
    rw [value?_of_kept h hs]
  legible := hlegible

end PipelineConsole.Json
