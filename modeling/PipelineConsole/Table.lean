/-!
# Tables

A table maps texts to values. It is a list of entries with distinct keys, in the order in which the
keys came in; replacing a value keeps the place of its key. Whoever goes through a table may meet
its entries in another order.

## Main definitions

* `Table`, `Table.get?`, `Table.insert`, `Table.erase` — tables and their operations
* `Table.keys`, `Table.values` — the entries in order
* `Table.valuesFrom` — the values in another order

## Main results

* `get?_insert`, `get?_erase` — what the operations do to every key
* `mem_entries_iff`, `mem_values_iff` — entries and values, through their keys
* `valuesFrom_perm` — in another order there are the same values
* `countP_values_le_one_iff` — at most one value is of a kind
-/

namespace PipelineConsole

/-- A finite map from texts. -/
structure Table (α : Type) where
  entries : List (String × α)
  nodup : (entries.map Prod.fst).Nodup

namespace Table

variable {α : Type}

/-- The table without entries. -/
def empty : Table α := ⟨[], List.nodup_nil⟩

instance : EmptyCollection (Table α) := ⟨empty⟩

instance : Inhabited (Table α) := ⟨empty⟩

/-- The keys, in order. -/
def keys (t : Table α) : List String := t.entries.map Prod.fst

/-- The values, in the order of their keys. -/
def values (t : Table α) : List α := t.entries.map Prod.snd

/-- Entries in another order: those of some keys first, in the order of these keys. -/
def arrange : (order : List String) → List (String × α) → List (String × α)
  | [], es => es
  | key :: rest, es => es.filter (·.1 = key) ++ arrange rest (es.filter (·.1 ≠ key))

/-- The values of a table that is gone through in another order. -/
def valuesFrom (t : Table α) (order : List String) : List α :=
  (arrange order t.entries).map Prod.snd

theorem arrange_perm (order : List String) (es : List (String × α)) :
    (arrange order es).Perm es := by
  induction order generalizing es with
  | nil => exact .rfl
  | cons key rest ih =>
    have hsplit := List.filter_append_perm (fun e : String × α => e.1 = key) es
    simp only [← decide_not] at hsplit
    exact ((ih _).append_left _).trans hsplit

/-- In whatever order a table is gone through, its values are the same. -/
theorem valuesFrom_perm (t : Table α) (order : List String) :
    (t.valuesFrom order).Perm t.values :=
  (arrange_perm order t.entries).map Prod.snd

/-- The value of a key. -/
def get? (t : Table α) (key : String) : Option α := t.entries.lookup key

/-- Whether a key is there. -/
def contains (t : Table α) (key : String) : Bool := (t.get? key).isSome

/-- Replaces the value of a key, or adds the key at the end. -/
def insertEntry (key : String) (a : α) : List (String × α) → List (String × α)
  | [] => [(key, a)]
  | (k, b) :: rest => if k = key then (key, a) :: rest else (k, b) :: insertEntry key a rest

theorem keys_insertEntry (key : String) (a : α) (es : List (String × α)) :
    (insertEntry key a es).map Prod.fst =
      if key ∈ es.map Prod.fst then es.map Prod.fst else es.map Prod.fst ++ [key] := by
  induction es with
  | nil => simp [insertEntry]
  | cons e rest ih =>
    obtain ⟨k, b⟩ := e
    by_cases h : k = key
    · simp [insertEntry, h]
    · have h' : ¬ key = k := fun e => h e.symm
      simp only [insertEntry, h, if_false, List.map_cons, ih, List.mem_cons, h', false_or]
      split <;> simp

theorem nodup_insertEntry (key : String) (a : α) {es : List (String × α)}
    (h : (es.map Prod.fst).Nodup) : ((insertEntry key a es).map Prod.fst).Nodup := by
  rw [keys_insertEntry]
  split
  · exact h
  · next hk =>
    refine List.nodup_append.2 ⟨h, by simp, ?_⟩
    intro a ha b hb
    simp only [List.mem_singleton] at hb
    subst hb
    exact fun e => hk (e ▸ ha)

/-- Replaces the value of a key, or adds the key at the end. -/
def insert (t : Table α) (key : String) (a : α) : Table α :=
  ⟨insertEntry key a t.entries, nodup_insertEntry key a t.nodup⟩

theorem nodup_eraseEntries (key : String) {es : List (String × α)}
    (h : (es.map Prod.fst).Nodup) :
    ((es.filter fun e => e.1 ≠ key).map Prod.fst).Nodup :=
  List.Pairwise.sublist (List.Sublist.map Prod.fst List.filter_sublist) h

/-- Removes a key. -/
def erase (t : Table α) (key : String) : Table α :=
  ⟨t.entries.filter fun e => e.1 ≠ key, nodup_eraseEntries key t.nodup⟩

theorem lookup_cons (k k' : String) (b : α) (rest : List (String × α)) :
    List.lookup k ((k', b) :: rest) = if k = k' then some b else rest.lookup k := by
  rw [List.lookup_cons]
  by_cases h : k = k'
  · simp [h]
  · simp [h, beq_eq_false_iff_ne.2 h]

theorem lookup_insertEntry (key k : String) (a : α) (es : List (String × α)) :
    (insertEntry key a es).lookup k = if k = key then some a else es.lookup k := by
  induction es with
  | nil => rw [insertEntry, lookup_cons]
  | cons e rest ih =>
    obtain ⟨k', b⟩ := e
    rw [insertEntry, lookup_cons]
    by_cases hk : k' = key
    · rw [if_pos hk, lookup_cons]
      by_cases h : k = key
      · rw [if_pos h, if_pos h]
      · rw [if_neg h, if_neg h, if_neg fun e => h (e.trans hk)]
    · rw [if_neg hk, lookup_cons, ih]
      by_cases h : k = k'
      · rw [if_pos h, if_pos h, if_neg fun e => hk (h.symm.trans e)]
      · rw [if_neg h, if_neg h]

/-- A key that was inserted has the new value, every other its old one. -/
theorem get?_insert (t : Table α) (key k : String) (a : α) :
    (t.insert key a).get? k = if k = key then some a else t.get? k :=
  lookup_insertEntry key k a t.entries

theorem lookup_filter_ne (key k : String) (es : List (String × α)) :
    (es.filter fun e => e.1 ≠ key).lookup k = if k = key then none else es.lookup k := by
  induction es with
  | nil => by_cases h : k = key <;> simp [h]
  | cons e rest ih =>
    obtain ⟨k', b⟩ := e
    rw [lookup_cons]
    by_cases hk : k' = key
    · rw [List.filter_cons_of_neg (by simp [hk]), ih]
      by_cases h : k = key
      · rw [if_pos h, if_pos h]
      · rw [if_neg h, if_neg h, if_neg fun e => h (e.trans hk)]
    · rw [List.filter_cons_of_pos (by simp [hk]), lookup_cons, ih]
      by_cases h : k = k'
      · rw [if_pos h, if_pos h, if_neg fun e => hk (h.symm.trans e)]
      · rw [if_neg h, if_neg h]

/-- An erased key has no value, every other its old one. -/
theorem get?_erase (t : Table α) (key k : String) :
    (t.erase key).get? k = if k = key then none else t.get? k :=
  lookup_filter_ne key k t.entries

@[simp] theorem get?_empty (k : String) : (∅ : Table α).get? k = none := rfl

theorem mem_iff_lookup {key : String} {a : α} {es : List (String × α)}
    (h : (es.map Prod.fst).Nodup) : (key, a) ∈ es ↔ es.lookup key = some a := by
  induction es with
  | nil => simp
  | cons e rest ih =>
    obtain ⟨k, b⟩ := e
    rw [List.map_cons, List.nodup_cons] at h
    rw [List.mem_cons, lookup_cons, ih h.2]
    by_cases hk : key = k
    · subst hk
      -- The keys are distinct, so that the key does not come up again.
      have habsent : rest.lookup key ≠ some a := fun hl =>
        h.1 (List.mem_map.2 ⟨(key, a), (ih h.2).2 hl, rfl⟩)
      simp [habsent, eq_comm]
    · simp [hk]

/-- A key stands beside a value among the entries exactly when it has that value. -/
theorem mem_entries_iff {t : Table α} {key : String} {a : α} :
    (key, a) ∈ t.entries ↔ t.get? key = some a :=
  mem_iff_lookup t.nodup

/-- The values are those that some key has. -/
theorem mem_values_iff {t : Table α} {a : α} : a ∈ t.values ↔ ∃ key, t.get? key = some a := by
  simp only [values, List.mem_map, Prod.exists, exists_eq_right, mem_entries_iff]

theorem countP_values_le_one {p : α → Bool} {es : List (String × α)}
    (h : (es.map Prod.fst).Nodup) :
    (es.map Prod.snd).countP p ≤ 1 ↔
      ∀ e ∈ es, p e.2 = true → ∀ f ∈ es, p f.2 = true → e.1 = f.1 := by
  induction es with
  | nil => simp
  | cons e rest ih =>
    rw [List.map_cons, List.nodup_cons] at h
    have ih := ih h.2
    rw [List.map_cons, List.countP_cons]
    by_cases hp : p e.2 = true
    · rw [if_pos hp]
      constructor
      · intro hcount
        -- Nothing counts after the first entry, so that any two that count are this one.
        have hzero : (rest.map Prod.snd).countP p = 0 := by omega
        have hrest : ∀ f ∈ rest, p f.2 ≠ true := fun f hf =>
          List.countP_eq_zero.1 hzero f.2 (List.mem_map_of_mem hf)
        intro f hf hpf g hg hpg
        rcases List.mem_cons.1 hf with rfl | hf
        · rcases List.mem_cons.1 hg with rfl | hg
          · rfl
          · exact absurd hpg (hrest g hg)
        · exact absurd hpf (hrest f hf)
      · intro hsame
        have hzero : (rest.map Prod.snd).countP p = 0 := by
          refine List.countP_eq_zero.2 fun a ha hpa => ?_
          obtain ⟨f, hf, rfl⟩ := List.mem_map.1 ha
          have heq := hsame e (.head _) hp f (.tail _ hf) hpa
          exact h.1 (heq ▸ List.mem_map_of_mem hf)
        omega
    · rw [if_neg hp, Nat.add_zero, ih]
      simp only [List.forall_mem_cons, hp, false_implies, true_and, Bool.false_eq_true]

/-- At most one value satisfies a predicate exactly when the keys of those that do are the same. -/
theorem countP_values_le_one_iff {t : Table α} {p : α → Bool} :
    t.values.countP p ≤ 1 ↔
      ∀ k a, t.get? k = some a → p a = true → ∀ l b, t.get? l = some b → p b = true → k = l := by
  rw [values, countP_values_le_one t.nodup]
  simp only [Prod.forall, mem_entries_iff]

end Table

end PipelineConsole
