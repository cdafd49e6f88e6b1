import PipelineConsole.Text.Alphabet
import PipelineConsole.Text.Blank

/-!
# Classes of characters

## Main results

* `isLetterOrNumeral_of_isBlank` — blanks are neither letters nor numerals
* `isLetter_of_isDigit`, `isLetterOrNumeral_of_isDigit` — digits are numerals and no letters
* `isLetter_of_isAlpha` — the letters of ASCII are letters
* `ofList_eq_iff` — a text is told by its characters
-/

namespace PipelineConsole.Text

variable {c : Char}

/-- A text is told by its characters. -/
theorem ofList_eq_iff {cs : List Char} {s : String} : String.ofList cs = s ↔ cs = s.toList := by
  constructor
  · rintro rfl
    rw [String.toList_ofList]
  · rintro rfl
    rw [String.ofList_toList]

/-- The code points of the blanks. -/
def blankPoints : List Nat :=
  [0x9, 0xA, 0xB, 0xC, 0xD, 0x20, 0x85, 0xA0, 0x1680, 0x2000, 0x2001, 0x2002, 0x2003, 0x2004,
    0x2005, 0x2006, 0x2007, 0x2008, 0x2009, 0x200A, 0x2028, 0x2029, 0x202F, 0x205F, 0x3000]

theorem toNat_mem_blankPoints (h : isBlank c = true) : c.toNat ∈ blankPoints := by
  simp only [isBlank, Bool.or_eq_true, Bool.and_eq_true, decide_eq_true_eq, beq_iff_eq] at h
  simp only [blankPoints, List.mem_cons, List.not_mem_nil, or_false]
  omega

/-- Blanks are neither letters nor numerals. -/
theorem isLetterOrNumeral_of_isBlank (h : isBlank c = true) : isLetterOrNumeral c = false := by
  have hall : ∀ n ∈ blankPoints, isLetterOrNumeral (Char.ofNat n) = false := by decide +kernel
  rw [← Char.ofNat_toNat c]
  exact hall c.toNat (toNat_mem_blankPoints h)

/-- Blanks are different from any character that is none. -/
theorem ne_of_isBlank {d : Char} (h : isBlank c = true) (hd : isBlank d = false) : c ≠ d := by
  rintro rfl
  rw [h] at hd
  nomatch hd

theorem val_lt_of_isDigit (h : c.isDigit = true) : c.val < 0x80 := by
  grind [Char.isDigit]

theorem isLower_iff : c.isLower = true ↔ 'a'.val ≤ c.val ∧ c.val ≤ 'z'.val :=
  Bool.and_eq_true_iff.trans (and_congr decide_eq_true_iff decide_eq_true_iff)

/-- The letters of ASCII. -/
theorem isAlpha_iff :
    c.isAlpha = true ↔ 'A'.val ≤ c.val ∧ c.val ≤ 'Z'.val ∨ 'a'.val ≤ c.val ∧ c.val ≤ 'z'.val := by
  refine Bool.or_eq_true_iff.trans (or_congr ?_ ?_)
  · exact decide_eq_true_iff
  · exact isLower_iff

/-- A digit is no letter. -/
theorem isLetter_of_isDigit (h : c.isDigit = true) : isLetter c = false := by
  rw [isLetter, if_pos (val_lt_of_isDigit h), ← Bool.not_eq_true, isAlpha_iff]
  grind [Char.isDigit]

theorem isLetter_of_isAlpha (h : c.isAlpha = true) : isLetter c = true := by
  have hval : c.val < 0x80 := by grind [isAlpha_iff]
  rwa [isLetter, if_pos hval]

/-- A character whose lower case form is a letter is one. -/
theorem isAlpha_of_toLower (h : c.toLower.isLower = true) : c.isAlpha = true := by
  rcases Decidable.em ('A'.val ≤ c.val ∧ c.val ≤ 'Z'.val) with hupper | hupper
  · exact isAlpha_iff.2 (.inl hupper)
  · rw [show c.toLower = c from dif_neg hupper] at h
    exact isAlpha_iff.2 (.inr (isLower_iff.1 h))

/-- A digit is a numeral. -/
theorem isLetterOrNumeral_of_isDigit (h : c.isDigit = true) : isLetterOrNumeral c = true := by
  rw [isLetterOrNumeral, isNumeral, if_pos (val_lt_of_isDigit h), h, Bool.or_true]

end PipelineConsole.Text
