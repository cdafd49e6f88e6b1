import PipelineConsole.Json.Printer

/-!
# Written values hold no control characters

Control characters stand in strings only, where they are escaped. A written value is therefore one
line of a text, with nothing at its end that could be taken for the end of a line.

## Main definitions

* `Printable` — characters without a control character

## Main results

* `forall_mem_finiteText` — the characters of a number
* `printable_escapedChar` — nothing inside a written string is a control character
* `printable_chars` — nor is anything in a written value
-/

namespace PipelineConsole.Json

/-- Characters none of which is a control character below the space. -/
def Printable (cs : List Char) : Prop := ∀ c ∈ cs, 0x20 ≤ c.toNat

instance : DecidablePred Printable :=
  fun cs => decidable_of_iff (cs.all (0x20 ≤ ·.toNat) = true) (by simp [Printable])

namespace Printable

variable {c : Char} {cs ds : List Char}

theorem nil : Printable [] := fun _ h => absurd h (List.not_mem_nil)

theorem cons (hc : 0x20 ≤ c.toNat) (hcs : Printable cs) : Printable (c :: cs) :=
  List.forall_mem_cons.2 ⟨hc, hcs⟩

theorem append (hcs : Printable cs) (hds : Printable ds) : Printable (cs ++ ds) :=
  fun _ h => (List.mem_append.1 h).elim (hcs _) (hds _)

end Printable

/-! ### Numbers -/

section Digits

variable {P : Char → Prop} (hdigit : ∀ c : Char, c.isDigit = true → P c)

include hdigit

theorem forall_mem_toDigits (n : Nat) : ∀ c ∈ Nat.toDigits 10 n, P c := fun c hc =>
  hdigit c (Nat.isDigit_of_mem_toDigits (by decide) (by decide) hc)

variable (hmark : ∀ c ∈ ['-', '+', '.', 'e'], P c)

include hmark

/-- A decimal is written with digits, signs, a point and the mark of an exponent. -/
theorem forall_mem_decimalText (digits : Nat) (exponent : Int) :
    ∀ c ∈ Binary64.decimalText digits exponent, P c := by
  have hds := forall_mem_toDigits hdigit digits
  have htake (n : Nat) : ∀ c ∈ (Nat.toDigits 10 digits).take n, P c :=
    fun c hc => hds c (List.mem_of_mem_take hc)
  have hdrop (n : Nat) : ∀ c ∈ (Nat.toDigits 10 digits).drop n, P c :=
    fun c hc => hds c (List.mem_of_mem_drop hc)
  have hone {c : Char} (hc : P c) : ∀ d ∈ [c], P d := fun d hd => List.mem_singleton.1 hd ▸ hc
  have hzero : P '0' := hdigit '0' rfl
  have hpoint : P '.' := hmark '.' (by decide)
  have hzeros (n : Nat) : ∀ c ∈ Binary64.zeros n, P c :=
    fun c hc => List.eq_of_mem_replicate hc ▸ hzero
  unfold Binary64.decimalText
  dsimp only
  -- Plain notation with the point before, behind or among the digits, or else an exponent.
  split
  · split
    · exact List.forall_mem_append.2 ⟨List.forall_mem_append.2
        ⟨List.forall_mem_cons.2 ⟨hzero, hone hpoint⟩, hzeros _⟩, hds⟩
    · split
      · exact List.forall_mem_append.2 ⟨List.forall_mem_append.2 ⟨hds, hzeros _⟩,
          List.forall_mem_cons.2 ⟨hpoint, hone hzero⟩⟩
      · exact List.forall_mem_append.2 ⟨List.forall_mem_append.2 ⟨htake _, hone hpoint⟩, hdrop _⟩
  · have hfraction : ∀ c ∈ (if (Nat.toDigits 10 digits).length = 1 then []
        else '.' :: (Nat.toDigits 10 digits).drop 1), P c := by
      split
      · exact fun _ hc => nomatch hc
      · exact List.forall_mem_cons.2 ⟨hpoint, hdrop 1⟩
    have hsign (power : Int) : P (if power < 0 then '-' else '+') := by
      split
      · exact hmark '-' (by decide)
      · exact hmark '+' (by decide)
    have hexponent : P 'e' := hmark 'e' (by decide)
    exact List.forall_mem_append.2 ⟨List.forall_mem_append.2 ⟨List.forall_mem_append.2
      ⟨List.forall_mem_append.2 ⟨htake 1, hfraction⟩, hone hexponent⟩, hone (hsign _)⟩,
        forall_mem_toDigits hdigit _⟩

/-- So is a finite double. -/
theorem forall_mem_finiteText (negative : Bool) (m : Nat) (q : Int) :
    ∀ c ∈ Binary64.finiteText negative m q, P c := by
  unfold Binary64.finiteText
  refine List.forall_mem_append.2 ⟨?_, ?_⟩
  · split
    · exact fun c hc => List.mem_singleton.1 hc ▸ hmark '-' (by decide)
    · exact fun _ hc => nomatch hc
  · split
    · have hzero : P '0' := hdigit '0' rfl
      have hpoint : P '.' := hmark '.' (by decide)
      simp [hzero, hpoint]
    · exact forall_mem_decimalText hdigit hmark _ _

end Digits

theorem printable_number (n : Number) : Printable n.chars := by
  have hdigit (c : Char) (hc : c.isDigit = true) : 0x20 ≤ c.toNat := by
    have hrange : 48 ≤ c.toNat ∧ c.toNat ≤ 57 := by
      simpa [Char.isDigit, UInt32.le_iff_toNat_le] using hc
    omega
  cases n with
  | int n =>
    rw [Number.chars, intChars]
    refine .append ?_ (forall_mem_toDigits hdigit _)
    split
    · exact .cons (by decide) .nil
    · exact .nil
  | float x =>
    rw [Number.chars]
    split
    · exact forall_mem_finiteText hdigit (by simp) _ _ _
    · exact .cons (by decide) (.cons (by decide) (.cons (by decide) (.cons (by decide) .nil)))

/-! ### Strings and values -/

/-- Nothing inside a written string is a control character. -/
theorem printable_escapedChar (c : Char) : Printable (escapedChar c) := by
  have hdigit : ∀ d < 16, 0x20 ≤ (Nat.digitChar d).toNat := by decide
  unfold escapedChar
  split
  · decide
  split
  · decide
  split
  · decide
  split
  · decide
  split
  · decide
  split
  · decide
  split
  · decide
  split
  · next hcontrol =>
    exact .cons (by decide) (.cons (by decide) (.cons (by decide) (.cons (by decide)
      (.cons (hdigit _ (by omega)) (.cons (hdigit _ (by omega)) .nil)))))
  · next hplain => exact .cons (Nat.le_of_not_lt hplain) .nil

theorem printable_stringChars (s : String) : Printable (stringChars s) := by
  refine .cons (by decide) (.append ?_ (.cons (by decide) .nil))
  intro c hc
  obtain ⟨d, -, hd⟩ := List.mem_flatMap.1 hc
  exact printable_escapedChar d c hd

mutual

/-- Nothing in a written value is a control character. -/
theorem printable_chars : ∀ v : Value, Printable v.chars
  | .null | .bool true | .bool false => by decide
  | .number n => printable_number n
  | .string s => printable_stringChars s
  | .array items =>
    .cons (by decide) ((printable_itemChars items).append (.cons (by decide) .nil))
  | .object members =>
    .cons (by decide) ((printable_memberChars members).append (.cons (by decide) .nil))

theorem printable_itemChars : ∀ items : List Value, Printable (itemChars items)
  | [] => .nil
  | [v] => printable_chars v
  | v :: w :: items =>
    (printable_chars v).append (.cons (by decide) (printable_itemChars (w :: items)))

theorem printable_memberChars : ∀ members : List (String × Value), Printable (memberChars members)
  | [] => .nil
  | [(name, v)] => (printable_stringChars name).append (.cons (by decide) (printable_chars v))
  | (name, v) :: m :: members =>
    ((printable_stringChars name).append (.cons (by decide) (printable_chars v))).append
      (.cons (by decide) (printable_memberChars (m :: members)))

end

end PipelineConsole.Json
