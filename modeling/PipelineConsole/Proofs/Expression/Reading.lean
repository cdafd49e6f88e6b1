import PipelineConsole.Expression.Transform
import PipelineConsole.Proofs.Expression.Filter
import PipelineConsole.Proofs.Text.Trimming

/-!
# How expressions are read

A text is read as a call, a quoted text, a number, a truth value, `nil` or a path, in this order.
Each of these has a form that can be told from the text.

## Main definitions

* `Number.IsWord`, `Number.IsSign`, `Number.IsExponent`, `Number.IsDecimal` — what numbers are made
  of
* `Expr.Wordlike` — a text that starts a name and goes on with it

## Main results

* `Expr.argument?_eq_some_iff`, `Expr.quoted?_eq_some_iff` — calls and quoted texts
* `Number.form_of_readDouble?` — numbers
* `Expr.Wordlike.isWord` — the only numbers that start like a name are the words for them
-/

namespace PipelineConsole

/-! ### Calls and quoted texts -/

namespace Expr

variable {cs rest inner argument : List Char} {f : TextFunction}

theorem withoutStart?_eq_some_iff {start : List Char} :
    withoutStart? start cs = some rest ↔ cs = start ++ rest := by
  induction start generalizing cs with
  | nil => simp [withoutStart?]
  | cons a start ih =>
    cases cs with
    | nil => simp [withoutStart?]
    | cons c cs =>
      rw [withoutStart?, List.cons_append, List.cons.injEq, ← ih]
      split_ifs with h <;> simp [h, eq_comm]

theorem withoutLast?_eq_some_iff {last : Char} :
    withoutLast? last cs = some rest ↔ cs = rest ++ [last] := by
  rw [← List.reverse_inj, List.reverse_append, withoutLast?]
  cases cs.reverse with
  | nil => simp
  | cons c front =>
    dsimp only
    split_ifs with hc
    · rw [hc, Option.some.injEq, List.reverse_singleton, List.singleton_append, List.cons.injEq,
        eq_self, true_and, List.reverse_eq_iff]
    · simp [hc]

/-- A call is the name of a function and something in parentheses; blanks may stand between them. -/
theorem argument?_eq_some_iff :
    argument? f cs = some argument ↔
      ∃ blanks : List Char, (∀ c ∈ blanks, Text.isBlank c = true) ∧
        cs = f.name.toList ++ (blanks ++ '(' :: (argument ++ [')'])) := by
  simp only [argument?, Option.bind_eq_bind, Option.bind_eq_some_iff, withoutStart?_eq_some_iff,
    withoutLast?_eq_some_iff]
  constructor
  · rintro ⟨rest, rfl, inner, hdrop, rfl⟩
    refine ⟨rest.takeWhile Text.isBlank, fun c hc => List.mem_takeWhile_imp hc, ?_⟩
    have hrest := List.takeWhile_append_dropWhile (p := Text.isBlank) (l := rest)
    rw [show rest.dropWhile Text.isBlank = '(' :: (argument ++ [')']) from hdrop] at hrest
    rw [hrest]
  · rintro ⟨blanks, hblanks, rfl⟩
    refine ⟨_, rfl, argument ++ [')'], ?_, rfl⟩
    rw [Text.dropBlanks, List.dropWhile_append_of_pos hblanks]
    rfl

theorem form_of_call? (h : call? cs = some (f, argument)) :
    ∃ blanks : List Char, (∀ c ∈ blanks, Text.isBlank c = true) ∧
      cs = f.name.toList ++ (blanks ++ '(' :: (argument ++ [')'])) := by
  obtain ⟨g, -, hg⟩ := List.exists_of_findSome?_eq_some h
  obtain ⟨a, ha, hga⟩ := Option.map_eq_some_iff.1 hg
  obtain ⟨rfl, rfl⟩ := Prod.mk.inj hga
  exact argument?_eq_some_iff.1 ha

/-- A quoted text stands between two quotes, whatever it is. -/
theorem quoted?_eq_some_iff : quoted? cs = some inner ↔ cs = '"' :: (inner ++ ['"']) := by
  simp [quoted?, Option.bind_eq_some_iff, withoutStart?_eq_some_iff, withoutLast?_eq_some_iff]

theorem ofChars_of_call (h : call? (Text.trimmed cs) = some (f, argument)) :
    ofChars cs = .call f (ofChars argument) := by
  rw [ofChars]
  split
  · next g a hcall =>
    obtain ⟨rfl, rfl⟩ := Prod.mk.inj (Option.some.inj (hcall.symm.trans h))
    rfl
  · next hnone => cases hnone.symm.trans h

/-- A text that is no call is read as the first of the other kinds that it can be. -/
theorem ofChars_of_not_call (h : call? (Text.trimmed cs) = none) :
    ofChars cs =
      match quoted? (Text.trimmed cs) with
      | some inner => .text inner
      | none =>
        match Number.readDouble? (Text.trimmed cs) with
        | some x => .number x
        | none =>
          if Text.trimmed cs = "true".toList then .bool true
          else if Text.trimmed cs = "false".toList then .bool false
          else if Text.trimmed cs = "nil".toList then .nil
          else .path (Text.trimmed cs) := by
  rw [ofChars]
  split
  · next hcall => cases hcall.symm.trans h
  · rfl

end Expr

/-! ### Numbers -/

namespace Number

/-- The words for infinity and for no number. -/
def words : List (List Char) := ["inf".toList, "infinity".toList, "nan".toList]

/-- A word for infinity or for no number, in any case. -/
def IsWord (cs : List Char) : Prop := cs.map Char.toLower ∈ words

instance (cs : List Char) : Decidable (IsWord cs) := inferInstanceAs (Decidable (_ ∈ _))

/-- A sign, or none. -/
def IsSign (cs : List Char) : Prop := cs = [] ∨ cs = ['-'] ∨ cs = ['+']

/-- The letter for an exponent, a sign or none, and digits. -/
def IsExponent (cs : List Char) : Prop :=
  ∃ letter sign digits, cs = letter :: (sign ++ digits) ∧ (letter = 'e' ∨ letter = 'E') ∧
    IsSign sign ∧ digits ≠ [] ∧ ∀ d ∈ digits, d.isDigit = true

/-- Digits, with a point or without, and an exponent or none. -/
def IsDecimal (cs : List Char) : Prop :=
  ∃ digits exponent, cs = digits ++ exponent ∧ digits ≠ [] ∧
    (∀ d ∈ digits, (d.isDigit || d = '.') = true) ∧ (exponent = [] ∨ IsExponent exponent)

variable {cs : List Char} {x : Binary64} {negative : Bool} {n : Int}

theorem IsSign.eq_of_mem (h : IsSign cs) {c : Char} (hc : c ∈ cs) : c = '-' ∨ c = '+' := by
  rcases h with rfl | rfl | rfl
  · nomatch hc
  · exact .inl (List.mem_singleton.1 hc)
  · exact .inr (List.mem_singleton.1 hc)

theorem digits_of_readExponent? (h : readExponent? cs = some n) :
    ∃ sign digits, cs = sign ++ digits ∧ IsSign sign ∧ digits ≠ [] ∧
      ∀ d ∈ digits, d.isDigit = true := by
  have hdigits {ds : List Char} (hds : (!ds.isEmpty && ds.all Char.isDigit) = true) :
      ds ≠ [] ∧ ∀ d ∈ ds, d.isDigit = true := by simpa using hds
  unfold readExponent? at h
  split at h
  next negative ds hsign =>
    obtain ⟨hds, -⟩ := Option.ite_none_right_eq_some.1 h
    split at hsign
    · next rest =>
      obtain ⟨-, rfl⟩ := Prod.mk.inj hsign
      exact ⟨['-'], rest, rfl, .inr (.inl rfl), hdigits hds⟩
    · next rest =>
      obtain ⟨-, rfl⟩ := Prod.mk.inj hsign
      exact ⟨['+'], rest, rfl, .inr (.inr rfl), hdigits hds⟩
    · obtain ⟨-, rfl⟩ := Prod.mk.inj hsign
      exact ⟨[], cs, rfl, .inl rfl, hdigits hds⟩

/-- What stands behind the digits of a decimal is nothing, or an exponent. -/
theorem isExponent_of_match {plain : Binary64} {value : Int → Binary64} {rest : List Char}
    (h : (match rest with
      | [] => some plain
      | c :: rest => if c = 'e' ∨ c = 'E' then (readExponent? rest).map value else none) = some x) :
    rest = [] ∨ IsExponent rest := by
  cases rest with
  | nil => exact .inl rfl
  | cons c rest =>
    obtain ⟨hc, h⟩ := Option.ite_none_right_eq_some.1 h
    obtain ⟨n, hn, -⟩ := Option.map_eq_some_iff.1 h
    obtain ⟨sign, digits, rfl, hsign, hdigits⟩ := digits_of_readExponent? hn
    exact .inr ⟨c, sign, digits, rfl, hc, hsign, hdigits⟩

theorem isDecimal_of_readDecimal? (h : readDecimal? negative cs = some x) : IsDecimal cs := by
  have hwhole := List.prefix_iff_eq_append.1 (cs.takeWhile_prefix Char.isDigit)
  have hdigit (ds : List Char) :
      ∀ d ∈ ds.takeWhile Char.isDigit, (d.isDigit || d = '.') = true := by
    intro d hd
    rw [List.mem_takeWhile_imp hd, Bool.true_or]
  unfold readDecimal? at h
  dsimp only at h
  generalize cs.drop (cs.takeWhile Char.isDigit).length = behind at h hwhole
  split at h
  · next rest =>
    obtain ⟨-, h⟩ := Option.ite_none_left_eq_some.1 h
    refine ⟨cs.takeWhile Char.isDigit ++ '.' :: rest.takeWhile Char.isDigit, _, ?_, by simp, ?_,
      isExponent_of_match h⟩
    · rw [List.append_assoc, List.cons_append, List.takeWhile_append_dropWhile, hwhole]
    · simp only [List.forall_mem_append, List.forall_mem_cons]
      exact ⟨hdigit cs, by decide, hdigit rest⟩
  · obtain ⟨hsome, h⟩ := Option.ite_none_left_eq_some.1 h
    refine ⟨_, _, hwhole.symm, ?_, hdigit cs, isExponent_of_match h⟩
    simpa using hsome

/-- A number is a word or a decimal, with a sign or without. -/
theorem form_of_readDouble? (h : readDouble? cs = some x) :
    ∃ sign magnitude, cs = sign ++ magnitude ∧ IsSign sign ∧
      (IsWord magnitude ∨ IsDecimal magnitude) := by
  have hform {negative : Bool} {magnitude : List Char}
      (h : readMagnitude? negative magnitude = some x) :
      IsWord magnitude ∨ IsDecimal magnitude := by
    unfold readMagnitude? at h
    dsimp only at h
    simp only [Text.ofList_eq_iff] at h
    split_ifs at h with hinfinity hnan
    · exact .inl (by simpa [IsWord, words] using hinfinity.imp_right .inl)
    · exact .inl (by simp [IsWord, words, hnan])
    · exact .inr (isDecimal_of_readDecimal? h)
  unfold readDouble? at h
  split at h
  · next rest => exact ⟨['-'], rest, rfl, .inr (.inl rfl), hform h⟩
  · next rest => exact ⟨['+'], rest, rfl, .inr (.inr rfl), hform h⟩
  · exact ⟨[], cs, rfl, .inl rfl, hform h⟩

/-- A word for infinity or no number is read as such. -/
theorem readDouble?_of_isWord (h : IsWord cs) :
    ∃ x, readDouble? cs = some x ∧ x.isFinite = false := by
  have hsign : ∀ w ∈ words, w.head? ≠ some '-' ∧ w.head? ≠ some '+' := by decide
  unfold readDouble?
  split
  · exact absurd rfl (hsign _ h).1
  · exact absurd rfl (hsign _ h).2
  · unfold readMagnitude?
    dsimp only
    simp only [IsWord, words, List.mem_cons, List.not_mem_nil, or_false] at h
    simp only [Text.ofList_eq_iff]
    split_ifs with hinfinity hnan
    · exact ⟨_, rfl, by decide⟩
    · exact ⟨_, rfl, by decide⟩
    · exact absurd (or_assoc.2 h) (not_or.2 ⟨hinfinity, hnan⟩)

end Number

/-! ### Words -/

namespace Expr

open PipelineConsole.Filter (startsName continuesName)
open Text (isBlank)

variable {cs front back : List Char}

/-- A text that starts a name and goes on with it. -/
structure Wordlike (cs : List Char) : Prop where
  starts : ∃ c rest, cs = c :: rest ∧ startsName c = true
  continues : ∀ c ∈ cs, continuesName c = true

theorem Wordlike.trimmed (h : Wordlike cs) (hfront : ∀ c ∈ front, isBlank c = true)
    (hback : ∀ c ∈ back, isBlank c = true) : Text.trimmed (front ++ cs ++ back) = cs := by
  have hplain {c : Char} (hc : c ∈ cs) : isBlank c = false := by
    by_contra hblank
    rw [Bool.not_eq_false] at hblank
    have hcontinues := h.continues c hc
    rw [Filter.continuesName_of_isBlank hblank] at hcontinues
    nomatch hcontinues
  obtain ⟨c, rest, rfl, -⟩ := h.starts
  have hne := List.cons_ne_nil c rest
  exact Text.trimmed_between hfront hback hne (hplain (List.head_mem hne))
    (hplain (List.getLast_mem hne))

theorem Wordlike.call?_eq_none (h : Wordlike cs) : call? cs = none := by
  cases hcall : call? cs with
  | none => rfl
  | some call =>
    obtain ⟨blanks, -, hcs⟩ := form_of_call? hcall
    exact absurd (h.continues ')' (by rw [hcs]; simp)) (by decide)

theorem Wordlike.quoted?_eq_none (h : Wordlike cs) : quoted? cs = none := by
  cases hquoted : quoted? cs with
  | none => rfl
  | some inner =>
    have hcs := quoted?_eq_some_iff.1 hquoted
    exact absurd (h.continues '"' (by rw [hcs]; simp)) (by decide)

/-- What starts a name is no number, unless it is a word for one. -/
theorem Wordlike.isWord (h : Wordlike cs) {x : Binary64} (hread : Number.readDouble? cs = some x) :
    Number.IsWord cs := by
  obtain ⟨c, rest, hcs, hstart⟩ := h.starts
  obtain ⟨sign, magnitude, rfl, hsign, hform⟩ := Number.form_of_readDouble? hread
  obtain rfl : sign = [] := by
    rcases hsign with rfl | rfl | rfl
    · rfl
    · exact absurd ((List.cons.inj hcs).1 ▸ hstart) (by decide)
    · exact absurd ((List.cons.inj hcs).1 ▸ hstart) (by decide)
  rcases hform with hword | ⟨digits, exponent, rfl, hne, hdigits, -⟩
  · exact hword
  · obtain ⟨d, digits, rfl⟩ := List.exists_cons_of_ne_nil hne
    obtain rfl := (List.cons.inj hcs).1
    have hnumber := (Filter.of_number (hdigits d List.mem_cons_self)).1
    rw [hnumber] at hstart
    nomatch hstart

end Expr

end PipelineConsole
