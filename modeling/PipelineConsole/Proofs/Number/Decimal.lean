import PipelineConsole.Number.Decimal

/-!
# Written numbers are read back

## Main results

* `readUnsigned_toString` — a number below the bound is read as it was written
-/

namespace PipelineConsole.Number

/-- Digits that are appended do not make a number smaller. -/
theorem le_ofDigitChars (ds : List Char) (n : Nat) : n ≤ Nat.ofDigitChars 10 ds n := by
  induction ds generalizing n with
  | nil => exact Nat.le_refl n
  | cons d ds ih =>
    have hmore := ih (10 * n + (d.toNat - '0'.toNat))
    rw [Nat.ofDigitChars_cons]
    omega

/-- Digits are appended one after another, as long as the number stays below the bound. -/
theorem appendDigits_eq_ok {bound : Nat} {ds : List Char} {n : Nat}
    (hds : ∀ d ∈ ds, d.isDigit = true) (hbound : Nat.ofDigitChars 10 ds n < bound) :
    appendDigits bound n ds = .ok (Nat.ofDigitChars 10 ds n) := by
  induction ds generalizing n with
  | nil => rfl
  | cons d ds ih =>
    obtain ⟨hd, hds⟩ := List.forall_mem_cons.1 hds
    rw [Nat.ofDigitChars_cons] at hbound ⊢
    have hnext : n * 10 + (d.toNat - 0x30) = 10 * n + (d.toNat - '0'.toNat) := by
      rw [Nat.mul_comm]
      rfl
    have hlt := Nat.lt_of_le_of_lt (le_ofDigitChars ds _) hbound
    rw [appendDigits, hd, hnext]
    simp only [Bool.not_true, Bool.false_eq_true, if_false, if_pos hlt, ih hds hbound]

/-- A number below the bound is read as it was written. -/
theorem readUnsigned_toString {bound n : Nat} (h : n < bound) :
    readUnsigned bound (toString n) = .ok n := by
  have hdigits : ∀ d ∈ Nat.toDigits 10 n, d.isDigit = true := fun d hd =>
    Nat.isDigit_of_mem_toDigits (by decide) (by decide) hd
  have hvalue : Nat.ofDigitChars 10 (Nat.toDigits 10 n) 0 = n :=
    Nat.ofDigitChars_toDigits (by decide) (by decide)
  have happend : appendDigits bound 0 (Nat.toDigits 10 n) = .ok n := by
    rw [appendDigits_eq_ok hdigits (by rw [hvalue]; exact h), hvalue]
  rw [readUnsigned, Nat.toString_eq_repr, Nat.toList_repr]
  split
  · next hnil => exact absurd hnil Nat.toDigits_ne_nil
  · next hplus => exact absurd (hdigits '+' (hplus ▸ List.mem_cons_self)) (by decide)
  · next hplus => exact absurd (hdigits '+' (hplus ▸ List.mem_cons_self)) (by decide)
  · exact happend

end PipelineConsole.Number
