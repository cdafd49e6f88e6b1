import PipelineConsole.Time.Order

/-!
# Sorting by time

Moments are ordered by their parts, of which no two moments have the same. Things that are sorted by
a moment of theirs therefore come in the same order again, whatever order they were in before, but
for those of one moment.

## Main results

* `eq_of_not_isBefore` — of two moments, one comes before the other
* `newestFirst_perm` — sorting the same things in another order
-/

namespace PipelineConsole.Timestamp

variable {α : Type} {f : α → Timestamp} {t u v : Timestamp}

theorem eq_of_parts (h : t.parts = u.parts) : t = u := by
  obtain ⟨⟨year, month, day, _⟩, second, nano, _⟩ := t
  obtain ⟨⟨year', month', day', _⟩, second', nano', _⟩ := u
  simp only [parts, List.cons.injEq, Int.natCast_inj, and_true] at h
  obtain ⟨rfl, rfl, rfl, rfl, rfl⟩ := h
  rfl

/-- Of two moments, one comes before the other. -/
theorem eq_of_not_isBefore (h : t.isBefore u = false) (h' : u.isBefore t = false) : t = u := by
  rw [isBefore, decide_eq_false_iff_not, List.not_lt] at h h'
  exact eq_of_parts (List.le_antisymm h' h)

theorem not_isBefore_trans (h : t.isBefore u = false) (h' : u.isBefore v = false) :
    t.isBefore v = false := by
  rw [isBefore, decide_eq_false_iff_not, List.not_lt] at h h' ⊢
  exact List.le_trans h' h

theorem not_isBefore_total (t u : Timestamp) : t.isBefore u = false ∨ u.isBefore t = false := by
  simp only [isBefore, decide_eq_false_iff_not, List.not_lt]
  exact List.le_total _ _

theorem pairwise_newestFirst (f : α → Timestamp) (xs : List α) :
    (newestFirst f xs).Pairwise fun a b => (f a).isBefore (f b) = false := by
  have hsorted := @List.pairwise_mergeSort α (fun a b => !(f a).isBefore (f b))
    (fun a b c => by simpa using not_isBefore_trans)
    (fun a b => by simpa using not_isBefore_total (f a) (f b)) xs
  simpa [newestFirst] using hsorted

theorem pairwise_map_newestFirst (f : α → Timestamp) (xs : List α) :
    ((newestFirst f xs).map f).Pairwise fun t u => t.isBefore u = false :=
  List.pairwise_map.2 (pairwise_newestFirst f xs)

/-- The same things in another order are sorted into the same order, but for those of one
moment. -/
theorem newestFirst_perm {xs ys : List α} (h : xs.Perm ys) :
    (newestFirst f xs).Perm (newestFirst f ys) ∧
      (newestFirst f xs).map f = (newestFirst f ys).map f := by
  have hperm : (newestFirst f xs).Perm (newestFirst f ys) :=
    (List.mergeSort_perm xs _).trans (h.trans (List.mergeSort_perm ys _).symm)
  exact ⟨hperm, (hperm.map f).eq_of_pairwise (fun _ _ _ _ => eq_of_not_isBefore)
    (pairwise_map_newestFirst f xs) (pairwise_map_newestFirst f ys)⟩

end PipelineConsole.Timestamp
