import Mathlib.Algebra.Group.Nat.Defs
import PipelineConsole.Time.Reader

/-!
# Printed timestamps are read back

The reader accepts more than is ever printed. Of what is printed it makes the moment that was
printed, whatever the year, and for leap seconds too.

## Main results

* `number_append` — a run of digits is read as the number that it spells
* `year_yearChars`, `fraction_fractionChars` — years and fractions are read back
* `read_text` — so are timestamps
-/

namespace PipelineConsole

open Text (isBlank dropBlanks)

/-- A digit is not blank. -/
theorem Text.isBlank_of_isDigit {c : Char} (h : c.isDigit = true) : isBlank c = false := by
  have hrange : 48 ≤ c.toNat ∧ c.toNat ≤ 57 := by
    simpa [Char.isDigit, UInt32.le_iff_toNat_le] using h
  simp only [isBlank, Bool.or_eq_false_iff, Bool.and_eq_false_iff, decide_eq_false_iff_not,
    beq_eq_false_iff_ne]
  omega

/-- Nothing is dropped before a character that is not blank. -/
theorem Text.dropBlanks_cons {c : Char} {cs : List Char} (h : isBlank c = false) :
    dropBlanks (c :: cs) = c :: cs :=
  List.dropWhile_cons_of_neg (by simp [h])

namespace Timestamp

/-! ### Printed digits -/

section Digits

variable {width n : Nat} {rest : List Char}

theorem digitsValue_eq (ds : List Char) : digitsValue ds = Nat.ofDigitChars 10 ds 0 := by
  rw [digitsValue, Nat.ofDigitChars_eq_foldl]
  congr 1
  funext n d
  rw [Nat.mul_comm]
  rfl

theorem digitsValue_padded : digitsValue (padded width n) = n := by
  rw [digitsValue_eq, padded, Nat.ofDigitChars_append, Nat.ofDigitChars_replicate_zero,
    Nat.mul_zero, Nat.ofDigitChars_ten_toDigits]

theorem isDigit_of_mem_padded {c : Char} (h : c ∈ padded width n) : c.isDigit = true := by
  rcases List.mem_append.1 h with hzero | hdigit
  · rw [List.eq_of_mem_replicate hzero]
    rfl
  · exact Nat.isDigit_of_mem_toDigits (by decide) (by decide) hdigit

theorem padded_ne_nil (width n : Nat) : padded width n ≠ [] := by
  simp [padded]

theorem length_padded (hwidth : 0 < width) (h : n < 10 ^ width) :
    (padded width n).length = width := by
  have hlength := (Nat.length_toDigits_le_iff (b := 10) (by decide) hwidth).2 h
  rw [padded, List.length_append, List.length_replicate]
  omega

/-- A run of digits is read as the number that it spells, if nothing of it is left over and no digit
follows that could still be read. -/
theorem number_append {ds : List Char} (hds : ∀ c ∈ ds, c.isDigit = true) (hne : ds ≠ [])
    (hwidth : ds.length ≤ width)
    (hend : (rest.take (width - ds.length)).takeWhile Char.isDigit = [])
    (hbound : digitsValue ds ≤ maxNumber) :
    number width (ds ++ rest) = .ok (digitsValue ds, rest) := by
  have htake : ((ds ++ rest).take width).takeWhile Char.isDigit = ds := by
    rw [List.take_append, List.take_of_length_le hwidth, List.takeWhile_append_of_pos hds, hend,
      List.append_nil]
  obtain ⟨d, more, rfl⟩ := List.exists_cons_of_ne_nil hne
  unfold number
  rw [htake]
  dsimp only
  rw [if_pos hbound, List.drop_left]

/-- A padded number is read from exactly its width. -/
theorem number_padded (hwidth : 0 < width) (h : n < 10 ^ width) (hbound : n ≤ maxNumber) :
    number width (padded width n ++ rest) = .ok (n, rest) := by
  have hlength := length_padded hwidth h
  rw [number_append (fun _ hc => isDigit_of_mem_padded hc) (padded_ne_nil width n)
    (Nat.le_of_eq hlength)
    (by rw [hlength, Nat.sub_self, List.take_zero, List.takeWhile_nil])
    (by rw [digitsValue_padded]; exact hbound), digitsValue_padded]

/-- A run of digits has no blanks in front of it. -/
theorem dropBlanks_padded : dropBlanks (padded width n ++ rest) = padded width n ++ rest := by
  obtain ⟨d, ds, h⟩ := List.exists_cons_of_ne_nil (padded_ne_nil width n)
  have hmem : d ∈ padded width n := h ▸ .head _
  have hd : d.isDigit = true := isDigit_of_mem_padded hmem
  rw [h, List.cons_append, Text.dropBlanks_cons (Text.isBlank_of_isDigit hd)]

theorem ranged_padded {low high : Nat} (hwidth : 0 < width) (h : n < 10 ^ width)
    (hbound : n ≤ maxNumber) (hlow : low ≤ n) (hhigh : n ≤ high) :
    ranged width low high (padded width n ++ rest) = .ok (n, rest) := by
  unfold ranged
  rw [dropBlanks_padded, number_padded hwidth h hbound]
  exact if_pos ⟨hlow, hhigh⟩

theorem separator_cons {sep : Char} (h : isBlank sep = false) :
    separator sep (sep :: rest) = .ok rest := by
  rw [separator, Text.dropBlanks_cons h]
  exact if_pos rfl

end Digits

/-! ### Years, fractions and offsets -/

section Parts

variable {rest : List Char}

/-- What follows a year, a point or a second is no digit. -/
theorem takeWhile_isDigit_cons {c : Char} (h : c.isDigit = false) (k : Nat) :
    ((c :: rest).take k).takeWhile Char.isDigit = [] := by
  cases k with
  | zero => rfl
  | succ k => rw [List.take_succ_cons, List.takeWhile_cons_of_neg (by simp [h])]

theorem yearWithin_of_inRange {n y : Int} (h : YearInRange y) (hn : n = y) :
    yearWithin n rest = .ok (y, rest) := by
  subst hn
  unfold YearInRange at h
  have hlimit : ((Nat.pow 2 31 : Nat) : Int) = 2147483648 := by decide
  exact if_pos (by rw [hlimit]; omega)

theorem year_minus (cs : List Char) :
    year ('-' :: cs) = number cs.length cs >>= fun (n, rest) => yearWithin (-n) rest := rfl

theorem year_plus (cs : List Char) :
    year ('+' :: cs) = number cs.length cs >>= fun (n, rest) => yearWithin n rest := rfl

/-- Without a sign there are at most four digits. -/
theorem year_padded (width n : Nat) :
    year (padded width n ++ rest) =
      number 4 (padded width n ++ rest) >>= fun (n, rest) => yearWithin n rest := by
  have hdigit : ∀ c ∈ padded width n, c.isDigit = true := fun _ hc => isDigit_of_mem_padded hc
  obtain ⟨d, ds, hcons⟩ := List.exists_cons_of_ne_nil (padded_ne_nil width n)
  unfold year
  rw [dropBlanks_padded]
  rw [hcons] at hdigit ⊢
  have hd : d.isDigit = true := hdigit d (.head _)
  split
  · next heq =>
    obtain rfl : d = '-' := (List.cons.inj heq).1
    cases hd
  · next heq =>
    obtain rfl : d = '+' := (List.cons.inj heq).1
    cases hd
  · rfl

/-- A number of any length is read behind a sign. -/
theorem number_length {n : Nat} (h : n ≤ maxNumber) :
    number (padded 4 n ++ '-' :: rest).length (padded 4 n ++ '-' :: rest) =
      .ok (n, '-' :: rest) := by
  rw [number_append (fun _ hc => isDigit_of_mem_padded hc) (padded_ne_nil _ _)
    (by rw [List.length_append]; omega) (takeWhile_isDigit_cons rfl _)
    (by rw [digitsValue_padded]; exact h), digitsValue_padded]

/-- A year is read up to the dash behind it. -/
theorem year_yearChars {y : Int} (h : YearInRange y) :
    year (yearChars y ++ '-' :: rest) = .ok (y, '-' :: rest) := by
  have hrange : -262143 ≤ y ∧ y ≤ 262142 := h
  have hmax : 262143 ≤ maxNumber := by decide
  unfold yearChars
  split
  · rw [year_padded, number_padded (by decide) (by omega) (by omega)]
    exact (pure_bind ..).trans (yearWithin_of_inRange h (by omega))
  · by_cases hneg : y < 0
    · rw [if_pos hneg, List.cons_append, year_minus, number_length (by omega)]
      exact (pure_bind ..).trans (yearWithin_of_inRange h (by omega))
    · rw [if_neg hneg, List.cons_append, year_plus, number_length (by omega)]
      exact (pure_bind ..).trans (yearWithin_of_inRange h (by omega))

/-- A fraction of up to nine digits is read with the zeros that it leaves out. -/
theorem fraction_padded {width n : Nat} (hwidth : 0 < width) (hnine : width ≤ 9)
    (h : n < 10 ^ width) :
    fraction ('.' :: padded width n ++ ['Z']) = .ok (n * 10 ^ (9 - width), ['Z']) := by
  have hlength := length_padded hwidth h
  have hbound : n ≤ maxNumber := by
    have hpow : 10 ^ width ≤ 10 ^ 9 := Nat.pow_le_pow_right (by decide) hnine
    have hmax : 10 ^ 9 ≤ maxNumber := by decide
    omega
  have hnumber : number 9 (padded width n ++ ['Z']) = .ok (n, ['Z']) := by
    rw [number_append (fun _ hc => isDigit_of_mem_padded hc) (padded_ne_nil _ _)
      (hlength.symm ▸ hnine) (takeWhile_isDigit_cons rfl _)
      (by rw [digitsValue_padded]; exact hbound), digitsValue_padded]
  rw [List.cons_append, fraction, hnumber]
  simp only [bind, Except.bind, List.length_append, hlength, List.length_singleton,
    Nat.add_sub_cancel]
  rfl

theorem fraction_fractionChars {n : Nat} (h : n < 1000000000) :
    fraction (fractionChars n ++ ['Z']) = .ok (n, ['Z']) := by
  unfold fractionChars
  split
  · next hzero =>
    rw [hzero]
    rfl
  · split
    · next hmillis =>
      rw [fraction_padded (by decide) (by decide) (by omega)]
      congr 2
      omega
    · split
      · next hmicros =>
        rw [fraction_padded (by decide) (by decide) (by omega)]
        congr 2
        omega
      · rw [fraction_padded (by decide) (by decide) (by omega)]
        congr 2
        omega

end Parts

/-! ### Timestamps -/

/-- The parts that are printed are those of the moment. -/
theorem ofParts_self (t : Timestamp) :
    ofParts t.date.year t.date.month t.date.day (t.second / 3600) (t.second / 60 % 60)
      t.secondOfMinute (t.nano % 1000000000) 0 = .ok t := by
  obtain ⟨date, second, nano, hsecond, hnano, hleap⟩ := t
  have hdate : Date.of? date.year date.month date.day = some date := dif_pos date.valid
  unfold ofParts
  rw [hdate]
  dsimp only
  rw [if_neg (by omega)]
  -- The second `60` is the leap second, which the moment keeps in its nanoseconds.
  have hparts : (if secondOfMinute ⟨date, second, nano, hsecond, hnano, hleap⟩ = 60
        then (59, nano % 1000000000 + 1000000000)
        else (secondOfMinute ⟨date, second, nano, hsecond, hnano, hleap⟩, nano % 1000000000)) =
      (second % 60, nano) := by
    unfold secondOfMinute
    dsimp only
    split <;> refine Prod.ext ?_ ?_ <;> dsimp only <;> omega
  rw [hparts]
  dsimp only
  have htime : second / 3600 * 3600 + second / 60 % 60 * 60 + second % 60 = second := by omega
  rw [htime]
  have hlocal : ofLocal? date second nano 0 = some ⟨date, second, nano, hsecond, hnano, hleap⟩ := by
    unfold ofLocal?
    dsimp only
    rw [if_neg (by omega), if_neg (by omega), of?]
    exact dif_pos ⟨hsecond, hnano, hleap⟩
  rw [hlocal]

/-- A printed timestamp is read back. -/
theorem read_text (t : Timestamp) : read t.text = .ok t := by
  have hsecond := t.valid.1
  have hnano := t.valid.2.1
  have hmonth := t.date.valid.2.1
  have hday := t.date.valid.2.2
  have hlast : daysInMonth t.date.year t.date.month ≤ 31 := by
    unfold daysInMonth
    split
    · split <;> decide
    · split <;> decide
  have hsixty : t.secondOfMinute ≤ 60 := by
    have hleap := t.valid.2.2
    unfold secondOfMinute
    omega
  rw [read, text, String.toList_ofList, chars]
  simp only [List.append_assoc, List.cons_append]
  -- Part after part, each with the rest of the text behind it.
  unfold readChars
  rw [year_yearChars t.date.valid.1]
  simp only [bind, Except.bind]
  rw [separator_cons (by decide)]
  dsimp only
  have hmax : 100 ≤ maxNumber := by decide
  rw [ranged_padded (by decide) (by omega) (by omega) hmonth.1 hmonth.2]
  dsimp only
  rw [separator_cons (by decide)]
  dsimp only
  rw [ranged_padded (by decide) (by omega) (by omega) hday.1 (by omega)]
  dsimp only [timeMark]
  rw [if_pos (.inl rfl)]
  dsimp only
  rw [ranged_padded (by decide) (by omega) (by omega) (by omega) (by omega)]
  dsimp only
  rw [separator_cons (by decide)]
  dsimp only
  rw [ranged_padded (by decide) (by omega) (by omega) (by omega) (by omega)]
  dsimp only
  rw [separator_cons (by decide)]
  dsimp only
  rw [ranged_padded (by decide) (by omega) (by omega) (by omega) hsixty]
  dsimp only
  rw [fraction_fractionChars (by omega)]
  exact ofParts_self t

end Timestamp

end PipelineConsole
