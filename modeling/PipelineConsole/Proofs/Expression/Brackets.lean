import PipelineConsole.Expression.Filter

/-!
# Matching parentheses

The parentheses of a filter match if they are a word of the grammar of Dyck: such a word is empty,
or it is a word in parentheses with a word behind it. The check counts the parentheses that are
open.

## Main definitions

* `Filter.Dyck` — the words of the grammar
* `Filter.Completes` — what may follow some open parentheses
* `Filter.Token.paren?` — the parenthesis that a token is

## Main results

* `Filter.balancedFrom_iff`, `Filter.isBalanced_iff` — to count is to read words
-/

namespace PipelineConsole.Filter

/-- A word of matching parentheses. -/
inductive Dyck : List Char → Prop
  | nil : Dyck []
  | wrap {u v : List Char} (hu : Dyck u) (hv : Dyck v) : Dyck ('(' :: (u ++ ')' :: v))

/-- What may follow some open parentheses: words, and between them what closes the parentheses. -/
inductive Completes : (depth : Nat) → List Char → Prop
  | last {w : List Char} (hw : Dyck w) : Completes 0 w
  | close {depth : Nat} {w rest : List Char} (hw : Dyck w) (hrest : Completes depth rest) :
    Completes (depth + 1) (w ++ ')' :: rest)

section Words

variable {depth : Nat} {w rest : List Char}

theorem Dyck.head?_ne (h : Dyck w) : w.head? ≠ some ')' := by
  cases h <;> simp

theorem completes_zero_iff : Completes 0 w ↔ Dyck w := by
  constructor
  · rintro ⟨hw⟩
    exact hw
  · exact .last

theorem completes_nil_iff : Completes depth [] ↔ depth = 0 := by
  constructor
  · intro h
    generalize hw : ([] : List Char) = w at h
    cases h with
    | last => rfl
    | close => simp at hw
  · rintro rfl
    exact .last .nil

/-- An opening parenthesis is one more that is open. -/
theorem completes_open_iff : Completes depth ('(' :: rest) ↔ Completes (depth + 1) rest := by
  constructor
  · intro h
    generalize hw : '(' :: rest = w at h
    cases h with
    | last h =>
      cases h with
      | nil => nomatch hw
      | wrap hu hv =>
        rw [(List.cons.inj hw).2]
        exact .close hu (.last hv)
    | close h hrest =>
      cases h with
      | nil => simp at hw
      | wrap hu hv =>
        obtain rfl := (List.cons.inj hw).2
        simpa using Completes.close hu (.close hv hrest)
  · intro h
    cases h with
    | close hu hrest =>
      cases hrest with
      | last hv => exact .last (.wrap hu hv)
      | close hv hrest =>
        -- The word that is closed and the one behind it are one word.
        have hword := Completes.close (.wrap hu hv) hrest
        rwa [List.cons_append, List.append_assoc, List.cons_append] at hword

/-- A closing parenthesis closes one that is open. -/
theorem completes_close_iff : Completes (depth + 1) (')' :: rest) ↔ Completes depth rest := by
  constructor
  · intro h
    generalize hw : ')' :: rest = w at h
    cases h with
    | close h hrest =>
      cases h with
      | nil => rwa [(List.cons.inj hw).2]
      | wrap => simp at hw
  · exact .close .nil

theorem not_completes_close : ¬Completes 0 (')' :: rest) := by
  rw [completes_zero_iff]
  exact fun h => h.head?_ne rfl

end Words

/-- The parenthesis that a token is, if it is one. -/
def Token.paren? : Token → Option Char
  | .openParen => some '('
  | .closeParen => some ')'
  | .name _ | .literal | .other => none

/-- Parentheses match, some of them being open, if and only if what follows completes them. -/
theorem balancedFrom_iff {depth : Nat} {ts : List Token} :
    balancedFrom depth ts = true ↔ Completes depth (ts.filterMap Token.paren?) := by
  induction ts generalizing depth with
  | nil => simp [balancedFrom, completes_nil_iff]
  | cons t ts ih =>
    cases t with
    | openParen => simp [balancedFrom, Token.paren?, completes_open_iff, ih]
    | closeParen =>
      cases depth with
      | zero => simp [balancedFrom, Token.paren?, not_completes_close]
      | succ depth => simp [balancedFrom, Token.paren?, completes_close_iff, ih]
    | name | literal | other =>
      simp only [balancedFrom, ih]
      rfl

/-- Parentheses match if and only if they are a word of the grammar. -/
theorem isBalanced_iff {ts : List Token} :
    isBalanced ts = true ↔ Dyck (ts.filterMap Token.paren?) :=
  balancedFrom_iff.trans completes_zero_iff

end PipelineConsole.Filter
