import PipelineConsole.Text.Blank
import Mathlib.Data.List.DropRight

/-!
# Trimming

Trimming takes away all blanks around a list and nothing else: what is left neither begins nor ends
with a blank.

## Main results

* `trimmed_trimmed` — trimming twice is trimming once
* `trimmed_between` — the blanks around something are taken away
* `exists_between` — and nothing else is
* `trimmed_eq_nil_iff` — nothing is left of blanks only
-/

namespace PipelineConsole.Text

variable {front cs back : List Char}

/-- A trimmed list does not begin with a blank. -/
theorem dropBlanks_trimmed (cs : List Char) : dropBlanks (trimmed cs) = trimmed cs := by
  -- The list is the beginning of one without blanks at its start.
  have hbeginning : trimmed cs <+: dropBlanks cs := List.rdropWhile_prefix isBlank (dropBlanks cs)
  have hstart := List.dropWhile_eq_self_iff.1 (List.dropWhile_idempotent isBlank cs)
  refine List.dropWhile_eq_self_iff.2 fun hlen => ?_
  have hfirst := hstart (hlen.trans_le hbeginning.length_le)
  rw [hbeginning.getElem hlen]
  exact hfirst

/-- Trimming twice is trimming once. -/
theorem trimmed_trimmed (cs : List Char) : trimmed (trimmed cs) = trimmed cs := by
  rw [trimmed, dropBlanks_trimmed]
  exact List.rdropWhile_idempotent isBlank (dropBlanks cs)

/-- A trimmed list does not begin with a blank. -/
theorem isBlank_head_trimmed (h : trimmed cs ≠ []) : isBlank ((trimmed cs).head h) = false := by
  have hstart := List.dropWhile_eq_self_iff.1 (dropBlanks_trimmed cs)
  rw [List.head_eq_getElem]
  exact Bool.eq_false_iff.2 (hstart (List.length_pos_of_ne_nil h))

/-- A trimmed list does not end with a blank. -/
theorem isBlank_getLast_trimmed (h : trimmed cs ≠ []) :
    isBlank ((trimmed cs).getLast h) = false :=
  Bool.eq_false_iff.2 (List.rdropWhile_last_not isBlank (dropBlanks cs) h)

/-- What trimming leaves is not blank, if there is something. -/
theorem all_isBlank_trimmed (h : trimmed cs ≠ []) : (trimmed cs).all isBlank = false := by
  refine List.all_eq_false.2 ⟨_, List.head_mem h, ?_⟩
  rw [isBlank_head_trimmed h]
  exact Bool.false_ne_true

theorem mem_of_mem_trimmed {c : Char} (h : c ∈ trimmed cs) : c ∈ cs :=
  ((List.dropWhile_suffix isBlank).subset
    ((List.rdropWhile_prefix isBlank (dropBlanks cs)).subset h))

/-- Trimming takes away the blanks around a text that neither starts nor ends with one. -/
theorem trimmed_between (hfront : ∀ c ∈ front, isBlank c = true)
    (hback : ∀ c ∈ back, isBlank c = true) (hne : cs ≠ [])
    (hfirst : isBlank (cs.head hne) = false) (hlast : isBlank (cs.getLast hne) = false) :
    trimmed (front ++ cs ++ back) = cs := by
  have hdrop : dropBlanks (front ++ cs ++ back) = cs ++ back := by
    obtain ⟨c, cs, rfl⟩ := List.exists_cons_of_ne_nil hne
    have hc : ¬isBlank c = true := Bool.not_eq_true _ ▸ hfirst
    rw [List.append_assoc, dropBlanks, List.dropWhile_append_of_pos hfront, List.cons_append,
      List.dropWhile_cons_of_neg hc]
  have hdropEnd : dropBlanks (cs ++ back).reverse = cs.reverse := by
    have hback' : ∀ c ∈ back.reverse, isBlank c = true := by simpa using hback
    have hlast' : ¬isBlank (cs.getLast hne) = true := Bool.not_eq_true _ ▸ hlast
    rw [List.reverse_append, dropBlanks, List.dropWhile_append_of_pos hback',
      ← List.dropLast_concat_getLast hne, List.reverse_concat, List.dropWhile_cons_of_neg hlast']
  rw [trimmed, hdrop, dropBlanksEnd, hdropEnd, List.reverse_reverse]

/-- Only blanks are taken away. -/
theorem exists_between (cs : List Char) :
    ∃ front back, cs = front ++ trimmed cs ++ back ∧ (∀ c ∈ front, isBlank c = true) ∧
      ∀ c ∈ back, isBlank c = true := by
  let ending := (dropBlanks cs).reverse.takeWhile isBlank
  have hend : dropBlanks cs = trimmed cs ++ ending.reverse := by
    show _ = ((dropBlanks cs).reverse.dropWhile isBlank).reverse ++ _
    rw [← List.reverse_append, List.takeWhile_append_dropWhile, List.reverse_reverse]
  refine ⟨cs.takeWhile isBlank, ending.reverse, ?_, ?_, ?_⟩
  · rw [List.append_assoc, ← hend, dropBlanks, List.takeWhile_append_dropWhile]
  · exact fun c hc => List.mem_takeWhile_imp hc
  · exact fun c hc => List.mem_takeWhile_imp (List.mem_reverse.1 hc)

/-- Nothing is left of blanks only. -/
theorem trimmed_eq_nil_iff : trimmed cs = [] ↔ ∀ c ∈ cs, isBlank c = true := by
  constructor
  · intro hnil c hc
    obtain ⟨front, back, hsplit, hfront, hback⟩ := exists_between cs
    rw [hnil, List.append_nil] at hsplit
    rw [hsplit] at hc
    exact (List.mem_append.1 hc).elim (hfront c) (hback c)
  · intro hblank
    by_contra hne
    have hhead := hblank _ (mem_of_mem_trimmed (List.head_mem hne))
    rw [isBlank_head_trimmed hne] at hhead
    exact Bool.false_ne_true hhead

end PipelineConsole.Text
