import PipelineConsole.Text.Blank

/-!
# Pieces of a list

## Main results

* `pieces_induction` — a list is taken apart at its separators
* `not_mem_of_mem_pieces` — the separator is in no piece
* `pieces_flatMap` — parts without the separator are the pieces of what they are joined to
-/

namespace PipelineConsole.Text

variable {α : Type} [DecidableEq α] {sep : α} {xs : List α}

theorem pieces_of_not_mem (h : sep ∉ xs) : pieces sep xs = [xs] := by
  induction xs with
  | nil => rfl
  | cons a xs ih =>
    have hne : a ≠ sep := fun heq => h (heq ▸ List.mem_cons_self)
    have hxs : sep ∉ xs := fun hmem => h (List.mem_cons_of_mem a hmem)
    rw [pieces, if_neg hne, ih hxs]

theorem pieces_append_cons (h : sep ∉ xs) (ys : List α) :
    pieces sep (xs ++ sep :: ys) = xs :: pieces sep ys := by
  induction xs with
  | nil => exact if_pos rfl
  | cons a xs ih =>
    have hne : a ≠ sep := fun heq => h (heq ▸ List.mem_cons_self)
    have hxs : sep ∉ xs := fun hmem => h (List.mem_cons_of_mem a hmem)
    rw [List.cons_append, pieces, if_neg hne, ih hxs]

/-- A list is taken apart at its separators from the first to the last. -/
theorem pieces_induction (sep : α) {motive : List α → Prop} (last : ∀ xs, sep ∉ xs → motive xs)
    (cut : ∀ xs ys, sep ∉ xs → motive ys → motive (xs ++ sep :: ys)) (xs : List α) :
    motive xs := by
  induction hlength : xs.length using Nat.strongRecOn generalizing xs with
  | ind n ih =>
    by_cases hsep : sep ∈ xs
    · obtain ⟨front, rest, rfl, hfront⟩ := List.eq_append_cons_of_mem hsep
      refine cut front rest hfront (ih rest.length ?_ rest rfl)
      rw [← hlength, List.length_append, List.length_cons]
      omega
    · exact last xs hsep

/-- Parts without the separator are the pieces of what they are joined to. -/
theorem pieces_flatMap {rest : List (List α)} (h : ∀ part ∈ xs :: rest, sep ∉ part) :
    pieces sep (xs ++ rest.flatMap (sep :: ·)) = xs :: rest := by
  induction rest generalizing xs with
  | nil => rw [List.flatMap_nil, List.append_nil, pieces_of_not_mem (h xs List.mem_cons_self)]
  | cons next rest ih =>
    obtain ⟨hxs, hrest⟩ := List.forall_mem_cons.1 h
    rw [List.flatMap_cons, List.cons_append, pieces_append_cons hxs, ih hrest]

/-- The separator is in no piece. -/
theorem not_mem_of_mem_pieces {piece : List α} (h : piece ∈ pieces sep xs) : sep ∉ piece := by
  induction xs generalizing piece with
  | nil =>
    rw [List.mem_singleton.1 h]
    exact List.not_mem_nil
  | cons a xs ih =>
    rw [pieces] at h
    split at h
    · rcases List.mem_cons.1 h with rfl | h
      · exact List.not_mem_nil
      · exact ih h
    · next hne =>
      cases hpieces : pieces sep xs with
      | nil =>
        rw [hpieces] at h
        rw [List.mem_singleton.1 h, List.mem_singleton]
        exact fun heq => hne heq.symm
      | cons first rest =>
        rw [hpieces] at h ih
        rcases List.mem_cons.1 h with rfl | h
        · rw [List.mem_cons, not_or]
          exact ⟨fun heq => hne heq.symm, ih List.mem_cons_self⟩
        · exact ih (List.mem_cons_of_mem first h)

theorem pieces_ne_nil (xs : List α) : pieces sep xs ≠ [] := by
  cases xs with
  | nil => nofun
  | cons a xs =>
    rw [pieces]
    split
    · nofun
    · split <;> nofun

/-- A list that is not cut is its only piece. -/
theorem eq_of_pieces_singleton {piece : List α} (h : pieces sep xs = [piece]) : xs = piece := by
  induction xs generalizing piece with
  | nil => exact (List.cons.inj h).1
  | cons a xs ih =>
    rw [pieces] at h
    split at h
    · exact absurd (List.cons.inj h).2 (pieces_ne_nil xs)
    · split at h
      · next hnil => exact absurd hnil (pieces_ne_nil xs)
      · next first rest hpieces =>
        obtain ⟨rfl, rfl⟩ := List.cons.inj h
        rw [ih hpieces]

/-- Texts that are joined with a character between them. -/
theorem toList_intercalate {sep : String} {c : Char} (hsep : sep.toList = [c]) (s : String)
    (rest : List String) : (String.intercalate sep (s :: rest)).toList =
      s.toList ++ (rest.map String.toList).flatMap (c :: ·) := by
  induction rest generalizing s with
  | nil => rw [String.intercalate_singleton, List.map_nil, List.flatMap_nil, List.append_nil]
  | cons next rest ih =>
    rw [String.intercalate_cons_cons, String.toList_append, String.toList_append, ih, hsep,
      List.append_assoc, List.map_cons, List.flatMap_cons]
    rfl

end PipelineConsole.Text
