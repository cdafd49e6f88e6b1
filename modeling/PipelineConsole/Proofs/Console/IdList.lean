import PipelineConsole.Console.IdList
import PipelineConsole.Proofs.Text.Pieces
import PipelineConsole.Proofs.Text.Trimming

/-!
# Lists of ids are read back

Ids that a list cannot mistake are read back in the order in which they are written, if no two are
the same. No others are ever read, so those that a list can mistake are not read back.

## Main definitions

* `IdList.Plain` — an id without a comma, with something in it and no blanks around it

## Main results

* `Text.pieces_intercalate` — texts without the separator are the pieces of what they are joined to
* `IdList.read_intercalate` — plain ids are read back
* `IdList.plain_of_mem_read`, `IdList.mem_read_intercalate_iff` — and no others
-/

namespace PipelineConsole

/-- Texts without commas are the pieces of what they are joined to. -/
theorem Text.pieces_intercalate {ids : List String} (hne : ids ≠ [])
    (h : ∀ id ∈ ids, ',' ∉ id.toList) :
    pieces ',' (String.intercalate "," ids).toList = ids.map String.toList := by
  cases ids with
  | nil => exact absurd rfl hne
  | cons id ids =>
    rw [toList_intercalate rfl, List.map_cons]
    refine pieces_flatMap fun part hpart => ?_
    obtain ⟨id, hid, rfl⟩ := List.mem_map.1 (List.map_cons ▸ hpart)
    exact h id hid

namespace IdList

/-- An id that a list of ids cannot mistake: it is not blank, has no blanks around it and no comma
in it. -/
structure Plain (id : String) : Prop where
  notBlank : Text.isBlankText id = false
  trimmed : Text.trim id = id
  noComma : ',' ∉ id.toList

theorem Plain.trimmed_toList {id : String} (h : Plain id) : Text.trimmed id.toList = id.toList := by
  have htrim := congrArg String.toList h.trimmed
  rwa [Text.trim, String.toList_ofList] at htrim

theorem Plain.toList_ne_nil {id : String} (h : Plain id) : id.toList ≠ [] := by
  intro hnil
  have hblank := h.notBlank
  rw [Text.isBlankText, hnil] at hblank
  exact absurd hblank (by decide)

/-- Distinct ids are all new. -/
theorem addNew_of_nodup {known ids : List String} (h : (known ++ ids).Nodup) :
    addNew known ids = known ++ ids := by
  induction ids generalizing known with
  | nil => rw [addNew, List.append_nil]
  | cons id ids ih =>
    have hnew : id ∉ known := fun hmem =>
      (List.nodup_append.1 h).2.2 id hmem id List.mem_cons_self rfl
    rw [List.append_cons] at h ⊢
    rw [addNew, if_neg hnew, ih h]

/-- Plain ids are read back in their order. -/
theorem read_intercalate {ids : List String} (hplain : ∀ id ∈ ids, Plain id) (hnodup : ids.Nodup) :
    read (String.intercalate "," ids) = ids := by
  cases ids with
  | nil => decide
  | cons first ids =>
    have hpieces := Text.pieces_intercalate (List.cons_ne_nil first ids)
      fun id hid => (hplain id hid).noComma
    have htrimmed : ((first :: ids).map String.toList).map Text.trimmed =
        (first :: ids).map String.toList := by
      rw [List.map_map]
      exact List.map_congr_left fun id hid => (hplain id hid).trimmed_toList
    have hkept : ((first :: ids).map String.toList).filter (fun p => !p.isEmpty) =
        (first :: ids).map String.toList := by
      refine List.filter_eq_self.2 fun p hp => ?_
      obtain ⟨id, hid, rfl⟩ := List.mem_map.1 hp
      simpa using (hplain id hid).toList_ne_nil
    have htexts : ((first :: ids).map String.toList).map String.ofList = first :: ids := by
      rw [List.map_map]
      exact (List.map_congr_left fun id _ => String.ofList_toList).trans (List.map_id _)
    unfold read
    rw [hpieces]
    dsimp only
    rw [htrimmed, hkept, htexts]
    exact addNew_of_nodup hnodup

theorem mem_addNew {id : String} {known ids : List String} :
    id ∈ addNew known ids ↔ id ∈ known ∨ id ∈ ids := by
  induction ids generalizing known with
  | nil => simp [addNew]
  | cons first ids ih =>
    rw [addNew, ih, List.mem_cons]
    split
    · next h =>
      constructor
      · exact Or.imp_right .inr
      · rintro (h' | rfl | h')
        exacts [.inl h', .inl h, .inr h']
    · rw [List.mem_append, List.mem_singleton, or_assoc]

/-- The ids of a text are the pieces that are more than blanks, without the blanks around them. -/
theorem mem_read {id raw : String} :
    id ∈ read raw ↔
      ∃ piece ∈ Text.pieces ',' raw.toList,
        Text.trimmed piece ≠ [] ∧ .ofList (Text.trimmed piece) = id := by
  simp only [read, mem_addNew, List.not_mem_nil, false_or, List.mem_map, List.mem_filter]
  constructor
  · rintro ⟨part, ⟨⟨piece, hpiece, rfl⟩, hpart⟩, rfl⟩
    exact ⟨piece, hpiece, by simpa using hpart, rfl⟩
  · rintro ⟨piece, hpiece, hne, rfl⟩
    exact ⟨_, ⟨⟨piece, hpiece, rfl⟩, by simpa using hne⟩, rfl⟩

/-- Only plain ids are ever read. -/
theorem plain_of_mem_read {id raw : String} (h : id ∈ read raw) : Plain id := by
  obtain ⟨piece, hpiece, hne, rfl⟩ := mem_read.1 h
  refine ⟨?_, ?_, ?_⟩
  · rw [Text.isBlankText, String.toList_ofList]
    exact Text.all_isBlank_trimmed hne
  · rw [Text.trim, String.toList_ofList, Text.trimmed_trimmed]
  · rw [String.toList_ofList]
    exact fun hmem => Text.not_mem_of_mem_pieces hpiece (Text.mem_of_mem_trimmed hmem)

/-- Ids are read back as they are, no matter in which order, just when all of them are plain. -/
theorem mem_read_intercalate_iff {ids : List String} (hnodup : ids.Nodup) :
    (∀ id, id ∈ read (String.intercalate "," ids) ↔ id ∈ ids) ↔ ∀ id ∈ ids, Plain id := by
  constructor
  · exact fun h id hid => plain_of_mem_read ((h id).2 hid)
  · intro h id
    rw [read_intercalate h hnodup]

end IdList

end PipelineConsole
