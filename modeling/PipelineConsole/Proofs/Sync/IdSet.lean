import Mathlib.Data.String.Basic
import PipelineConsole.Sync.Worker

/-!
# Sets of ids

A set of ids is a list in ascending order. An id goes in at its place and goes out without any
change of the others, so that the order stays as it is and no id is there twice.

## Main results

* `mem_ofList` — the ids of a list
* `pairwise_insert`, `pairwise_erase`, `pairwise_ofList` — the ids are in ascending order
* `nodup_ofList` — no id is there twice
-/

namespace PipelineConsole.IdSet

variable {id : String} {ids : IdSet}

theorem mem_ofList {ids : List String} : id ∈ ofList ids ↔ id ∈ ids := by
  have hfold (set : IdSet) :
      id ∈ ids.foldl (fun set x => insert x set) set ↔ id ∈ set ∨ id ∈ ids := by
    induction ids generalizing set with
    | nil => simp
    | cons x rest ih =>
      rw [List.foldl_cons, ih, mem_insert, List.mem_cons, or_assoc, or_left_comm]
  exact (hfold []).trans (by simp)

/-- An id goes in before the greater ones. -/
theorem pairwise_insert (h : ids.Pairwise (· < ·)) : (insert id ids).Pairwise (· < ·) := by
  induction ids with
  | nil => exact List.pairwise_singleton _ _
  | cons x ids ih =>
    obtain ⟨hx, hids⟩ := List.pairwise_cons.1 h
    rw [insert]
    split
    · exact h
    · next hne =>
      split
      · next hlt =>
        refine List.pairwise_cons.2 ⟨fun y hy => ?_, h⟩
        rcases List.mem_cons.1 hy with rfl | hy
        · exact hlt
        · exact lt_trans hlt (hx y hy)
      · next hnlt =>
        refine List.pairwise_cons.2 ⟨fun y hy => ?_, ih hids⟩
        rcases mem_insert.1 hy with rfl | hy
        · exact lt_of_le_of_ne (not_lt.1 hnlt) (Ne.symm hne)
        · exact hx y hy

theorem pairwise_erase (h : ids.Pairwise (· < ·)) : (erase id ids).Pairwise (· < ·) :=
  h.sublist List.filter_sublist

theorem pairwise_ofList (ids : List String) : (ofList ids).Pairwise (· < ·) := by
  have hsorted (set : IdSet) (hset : set.Pairwise (· < ·)) :
      (ids.foldl (fun set id => insert id set) set).Pairwise (· < ·) := by
    induction ids generalizing set with
    | nil => exact hset
    | cons id ids ih => exact ih _ (pairwise_insert hset)
  exact hsorted [] List.Pairwise.nil

theorem nodup_of_pairwise (h : ids.Pairwise (· < ·)) : ids.Nodup := h.imp fun hlt => ne_of_lt hlt

/-- The ids of a list are in it once each. -/
theorem nodup_ofList (ids : List String) : (ofList ids).Nodup :=
  nodup_of_pairwise (pairwise_ofList ids)

end PipelineConsole.IdSet
