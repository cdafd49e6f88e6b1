import Mathlib.Tactic.ByContra
import Mathlib.Tactic.SplitIfs
import PipelineConsole.Proofs.Expression.Brackets
import PipelineConsole.Proofs.Text.Alphabet

/-!
# The filters that are accepted

What a filter must look like is said about its text: its literals are closed, and of what stands
outside of them the parentheses match and the names are known. The check cuts the text into tokens,
one character at a time, and accepts just these filters. So it does not matter what stands in a
literal, and more fields do not make a filter worse.

## Main definitions

* `Filter.Outside` — the parts of a text outside of its literals, which are closed
* `Filter.names`, `Filter.parens` — the names of a part, and the parentheses of parts
* `Filter.Known`, `Filter.WellFormed` — names that belong to something, and filters in good form

## Main results

* `Filter.tokens?_of_outside`, `Filter.exists_outside` — the tokens of a text are those of its parts
* `Filter.accepted_iff_wellFormed` — the check accepts the filters in good form
-/

namespace PipelineConsole.Filter

open Text (isBlank isLetterOrNumeral)

/-! ### What a filter must look like -/

/-- A quote, which opens a literal that ends at the next quote of the same kind. -/
def IsQuote (c : Char) : Prop := c = '"' ∨ c = '\''

instance (c : Char) : Decidable (IsQuote c) := inferInstanceAs (Decidable (_ ∨ _))

/-- The literals of a text are closed, and the parts stand before, between and behind them. -/
inductive Outside : List Char → List (List Char) → Prop
  | last {part : List Char} (hpart : ∀ c ∈ part, ¬IsQuote c) : Outside part [part]
  | literal {part text rest : List Char} {quote : Char} {parts : List (List Char)}
    (hpart : ∀ c ∈ part, ¬IsQuote c) (hquote : IsQuote quote) (htext : quote ∉ text)
    (hrest : Outside rest parts) :
    Outside (part ++ quote :: (text ++ quote :: rest)) (part :: parts)

/-- The name in a run of characters that may continue one: it begins where a name may start. -/
def nameOf? (run : List Char) : Option (List Char) :=
  let name := run.dropWhile (!startsName ·)
  if name = [] then none else some name

/-- The names of a part, at most one in each run of characters that may continue a name. -/
def names (part : List Char) : List (List Char) :=
  (part.splitOnP (!continuesName ·)).filterMap nameOf?

/-- Whether a character is a parenthesis. -/
def isParen (c : Char) : Bool := c = '(' || c = ')'

/-- The parentheses of some parts. -/
def parens (parts : List (List Char)) : List Char := parts.flatten.filter isParen

/-- The name is a field, or what stands before its first point is a field or a keyword. -/
def Known (fields : List FieldSpec) (name : List Char) : Prop :=
  (∃ f ∈ fields, f.name = .ofList name ∨ f.name = .ofList (root name)) ∨
    String.ofList (root name) ∈ keywords

/-- A filter in good form: it is not blank, its literals are closed, and outside of them the
parentheses match and all names are known, if there are fields to be named. -/
def WellFormed (fields : List FieldSpec) (cs : List Char) : Prop :=
  (∃ c ∈ cs, isBlank c = false) ∧
    ∃ parts, Outside cs parts ∧ Dyck (parens parts) ∧
      (fields ≠ [] → ∀ part ∈ parts, ∀ name ∈ names part, Known fields name)

section Names

variable {c : Char}

/-! ### Names, character by character -/

theorem continuesName_of_startsName (h : startsName c = true) : continuesName c = true := by
  rcases Bool.or_eq_true_iff.1 h with h | h <;> simp [continuesName, isLetterOrNumeral, h]

theorem continuesName_of_isBlank (h : isBlank c = true) : continuesName c = false := by
  have hunderscore : c ≠ '_' := Text.ne_of_isBlank h (by decide)
  have hpoint : c ≠ '.' := Text.ne_of_isBlank h (by decide)
  simp [continuesName, Text.isLetterOrNumeral_of_isBlank h, hunderscore, hpoint]

theorem startsName_of_not_continues (h : continuesName c = false) : startsName c = false := by
  by_contra hstart
  rw [Bool.not_eq_false] at hstart
  rw [continuesName_of_startsName hstart] at h
  nomatch h

theorem startsName_of_isDigit (h : c.isDigit = true) : startsName c = false := by
  have hunderscore : c ≠ '_' := by
    rintro rfl
    exact absurd h (by decide)
  simp [startsName, Text.isLetter_of_isDigit h, hunderscore]

theorem names_nil : names [] = [] := rfl

/-- A character that does not start a name adds nothing to what stands behind it. -/
theorem names_cons_of_not_starts (h : startsName c = false) (cs : List Char) :
    names (c :: cs) = names cs := by
  have hname (run : List Char) : nameOf? (c :: run) = nameOf? run := by
    rw [nameOf?, List.dropWhile_cons_of_pos (by rw [h]; rfl), nameOf?]
  rw [names, List.splitOnP_cons_eq_if_modifyHead, names]
  split
  · rfl
  · cases cs.splitOnP (!continuesName ·) with
    | nil => rfl
    | cons run runs => rw [List.modifyHead_cons, List.filterMap_cons, hname, List.filterMap_cons]

/-- The runs of a text are its first run and those behind it. -/
theorem exists_splitOnP (cs : List Char) :
    ∃ runs, cs.splitOnP (!continuesName ·) = cs.takeWhile continuesName :: runs ∧
      runs.filterMap nameOf? = names (cs.dropWhile continuesName) := by
  induction cs with
  | nil => exact ⟨[], rfl, rfl⟩
  | cons c cs ih =>
    obtain ⟨runs, hruns, hnames⟩ := ih
    rw [List.splitOnP_cons_eq_if_modifyHead]
    by_cases hc : continuesName c = true
    · exact ⟨runs, by simp [hc, hruns], by simp [hc, hnames]⟩
    · have hstart := startsName_of_not_continues (Bool.not_eq_true _ ▸ hc)
      refine ⟨cs.splitOnP (!continuesName ·), by simp [hc], ?_⟩
      rw [List.dropWhile_cons_of_neg hc, names_cons_of_not_starts hstart, names]

/-- A character that starts a name starts one up to the first character that cannot continue it. -/
theorem names_cons_of_starts (h : startsName c = true) (cs : List Char) :
    names (c :: cs) =
      (c :: cs.takeWhile continuesName) :: names (cs.dropWhile continuesName) := by
  obtain ⟨runs, hruns, hnames⟩ := exists_splitOnP cs
  rw [names, List.splitOnP_cons_eq_if_modifyHead, hruns, ← hnames]
  simp [continuesName_of_startsName h, nameOf?, h]

end Names

/-! ### Tokens, character by character -/

/-- The name that a token is, if it is one. -/
def Token.name? : Token → Option (List Char)
  | .name cs => some cs
  | .literal | .openParen | .closeParen | .other => none

/-- The machine does not stand in a literal. -/
def Scan.IsOutside : Scan → Prop
  | .inLiteral _ => False
  | .between | .inNumber | .inName _ => True

theorem isOutside_between : Scan.IsOutside .between := trivial

/-- The names that a state and the characters behind it make. -/
def Scan.names : Scan → List Char → List (List Char)
  | .inName begun, cs =>
    (begun.reverse ++ cs.takeWhile continuesName) :: Filter.names (cs.dropWhile continuesName)
  | .between, cs | .inNumber, cs | .inLiteral _, cs => Filter.names cs

/-- What a state and a character make of a text: they stay outside of literals, and no name and no
parenthesis is lost. -/
structure Scan.Advances (before : Scan) (c : Char) (after : Scan) (ts : List Token) : Prop where
  isOutside : after.IsOutside
  names (cs : List Char) : before.names (c :: cs) = ts.filterMap Token.name? ++ after.names cs
  parens : [c].filter isParen = ts.filterMap Token.paren?

section Tokens

variable {c quote : Char} {cs text rest : List Char} {state : Scan} {ts : List Token}
  {parts : List (List Char)}

theorem isParen_of_isBlank (h : isBlank c = true) : isParen c = false := by
  have hopen : c ≠ '(' := Text.ne_of_isBlank h (by decide)
  have hclose : c ≠ ')' := Text.ne_of_isBlank h (by decide)
  simp [isParen, hopen, hclose]

theorem isParen_of_continuesName (h : continuesName c = true) : isParen c = false := by
  have hopen : c ≠ '(' := by
    rintro rfl
    exact absurd h (by decide)
  have hclose : c ≠ ')' := by
    rintro rfl
    exact absurd h (by decide)
  simp [isParen, hopen, hclose]

theorem continuesName_of_isDigit (h : c.isDigit = true) : continuesName c = true := by
  simp [continuesName, Text.isLetterOrNumeral_of_isDigit h]

/-- What a number is made of may continue a name, but does not start one. -/
theorem of_number (h : (c.isDigit || c = '.') = true) :
    startsName c = false ∧ continuesName c = true := by
  rcases Bool.or_eq_true_iff.1 h with hdigit | hpoint
  · exact ⟨startsName_of_isDigit hdigit, continuesName_of_isDigit hdigit⟩
  · obtain rfl := of_decide_eq_true hpoint
    decide

/-- Between tokens, a character that is no quote is read as what it is. -/
theorem advances_start (hc : ¬IsQuote c) :
    Scan.Advances .between c (Scan.start c).1 (Scan.start c).2 := by
  -- Where no name is started, nothing is known about the character but its class.
  have hskip {ts : List Token} (hstart : startsName c = false)
      (hnames : ts.filterMap Token.name? = []) (cs : List Char) :
      names (c :: cs) = ts.filterMap Token.name? ++ names cs := by
    rw [names_cons_of_not_starts hstart, hnames, List.nil_append]
  unfold Scan.start
  split_ifs with hblank hopen hclose hquote hdigit hstart
  · have hstart := startsName_of_not_continues (continuesName_of_isBlank hblank)
    exact ⟨trivial, hskip hstart rfl, by simp [isParen_of_isBlank hblank]⟩
  · subst hopen
    exact ⟨trivial, hskip (by decide) rfl, rfl⟩
  · subst hclose
    exact ⟨trivial, hskip (by decide) rfl, rfl⟩
  · exact absurd hquote hc
  · have hparen := isParen_of_continuesName (continuesName_of_isDigit hdigit)
    exact ⟨trivial, hskip (startsName_of_isDigit hdigit) rfl, by simp [hparen]⟩
  · have hparen := isParen_of_continuesName (continuesName_of_startsName hstart)
    exact ⟨trivial, fun cs => names_cons_of_starts hstart cs, by simp [hparen]⟩
  · have hstart := Bool.not_eq_true _ ▸ hstart
    exact ⟨trivial, hskip hstart rfl, by simp [isParen, hopen, hclose, Token.paren?]⟩

/-- Outside of literals, a character that is no quote is read as what it is. -/
theorem advances_step (hstate : state.IsOutside) (hc : ¬IsQuote c) :
    state.Advances c (state.step c).1 (state.step c).2 := by
  obtain ⟨houtside, hnames, hparens⟩ := advances_start hc
  cases state with
  | between => exact ⟨houtside, hnames, hparens⟩
  | inLiteral => exact hstate.elim
  | inNumber =>
    rw [Scan.step]
    split_ifs with hnumber
    · obtain ⟨hstart, hcontinues⟩ := of_number hnumber
      refine ⟨trivial, names_cons_of_not_starts hstart, ?_⟩
      simp [isParen_of_continuesName hcontinues]
    · exact ⟨houtside, hnames, hparens⟩
  | inName begun =>
    rw [Scan.step]
    split_ifs with hname
    · refine ⟨trivial, fun cs => ?_, by simp [isParen_of_continuesName hname]⟩
      simp [Scan.names, hname]
    · refine ⟨houtside, fun cs => ?_, hparens⟩
      have hnames : names (c :: cs) = _ := hnames cs
      simp [Scan.names, hname, hnames, Token.name?]

/-! ### Tokens of a text -/

theorem run?_cons (state : Scan) (c : Char) (rest : List Char) :
    state.run? (c :: rest) =
      ((state.step c).1.run? rest).map ((state.step c).2 ++ ·) := rfl

/-- Outside of literals, a part without quotes can be read to its end. -/
theorem run?_of_outside (hstate : state.IsOutside) (hcs : ∀ c ∈ cs, ¬IsQuote c) :
    ∃ ts, state.run? cs = some ts ∧ ts.filterMap Token.name? = state.names cs ∧
      ts.filterMap Token.paren? = cs.filter isParen := by
  induction cs generalizing state with
  | nil =>
    cases state with
    | between => exact ⟨[], rfl, rfl, rfl⟩
    | inLiteral => exact hstate.elim
    | inNumber => exact ⟨[.literal], rfl, rfl, rfl⟩
    | inName begun =>
      refine ⟨[.name begun.reverse], rfl, ?_, rfl⟩
      simp [Scan.names, Token.name?, names_nil]
  | cons c cs ih =>
    obtain ⟨hc, hcs⟩ := List.forall_mem_cons.1 hcs
    obtain ⟨houtside, hnames, hparens⟩ := advances_step hstate hc
    obtain ⟨ts, hrun, hname, hparen⟩ := ih houtside hcs
    refine ⟨(state.step c).2 ++ ts, by rw [run?_cons, hrun]; rfl, ?_, ?_⟩
    · rw [List.filterMap_append, hname, hnames]
    · rw [List.filterMap_append, hparen, ← hparens, ← List.filter_append,
        List.singleton_append]

/-- A character that cannot continue a name ends what has been begun. -/
theorem run?_cons_of_ends (hfinish : state.finish? = some ts) (hc : continuesName c = false)
    (rest : List Char) : state.run? (c :: rest) = (tokens? (c :: rest)).map (ts ++ ·) := by
  have hnumber : (c.isDigit || c = '.') = false := by
    by_contra hnumber
    rw [(of_number (Bool.not_eq_false _ ▸ hnumber)).2] at hc
    nomatch hc
  cases state with
  | inLiteral => nomatch hfinish
  | between | inNumber | inName =>
    obtain rfl := Option.some.inj hfinish
    simp [tokens?, run?_cons, Scan.step, hnumber, hc, Function.comp_def]

/-- Behind a text that is read to its end, such a character starts anew. -/
theorem run?_append (hrun : state.run? cs = some ts) (hc : continuesName c = false)
    (rest : List Char) :
    state.run? (cs ++ c :: rest) = (tokens? (c :: rest)).map (ts ++ ·) := by
  induction cs generalizing state ts with
  | nil => exact run?_cons_of_ends hrun hc rest
  | cons d cs ih =>
    rw [run?_cons] at hrun
    obtain ⟨more, hmore, rfl⟩ := Option.map_eq_some_iff.1 hrun
    rw [List.cons_append, run?_cons, ih hmore]
    simp [Function.comp_def]

/-- A quote behind such a text opens a literal. -/
theorem run?_append_quote (hrun : state.run? cs = some ts) (hquote : IsQuote quote)
    (rest : List Char) :
    state.run? (cs ++ quote :: rest) = ((Scan.inLiteral quote).run? rest).map (ts ++ ·) := by
  have hends : continuesName quote = false := by rcases hquote with rfl | rfl <;> decide
  have hstart : Scan.start quote = (.inLiteral quote, []) := by
    rcases hquote with rfl | rfl <;> decide
  rw [run?_append hrun hends, tokens?, run?_cons, Scan.step, hstart]
  simp

/-- A literal goes up to the next quote of its kind. -/
theorem run?_inLiteral (htext : quote ∉ text) (rest : List Char) :
    (Scan.inLiteral quote).run? (text ++ quote :: rest) =
      (tokens? rest).map (Token.literal :: ·) := by
  induction text with
  | nil => simp [run?_cons, Scan.step, tokens?]
  | cons c text ih =>
    rw [List.mem_cons, not_or] at htext
    rw [List.cons_append, run?_cons, Scan.step, if_neg (Ne.symm htext.1)]
    simp [ih htext.2, Function.comp_def]

/-- A literal without such a quote is not closed. -/
theorem run?_inLiteral_eq_none (htext : quote ∉ text) :
    (Scan.inLiteral quote).run? text = none := by
  induction text with
  | nil => rfl
  | cons c text ih =>
    rw [List.mem_cons, not_or] at htext
    rw [run?_cons, Scan.step, if_neg (Ne.symm htext.1)]
    simp [ih htext.2]

/-- Where literals are closed, the tokens have the names and the parentheses of the parts outside of
them. -/
theorem tokens?_of_outside (h : Outside cs parts) :
    ∃ ts, tokens? cs = some ts ∧ ts.filterMap Token.name? = parts.flatMap names ∧
      ts.filterMap Token.paren? = parens parts := by
  induction h with
  | @last part hpart =>
    obtain ⟨ts, hrun, hname, hparen⟩ := run?_of_outside isOutside_between hpart
    have hname : ts.filterMap Token.name? = names part := hname
    exact ⟨ts, hrun, by simpa using hname, by simpa [parens] using hparen⟩
  | @literal part text rest quote parts hpart hquote htext _ ih =>
    obtain ⟨ts, hrun, hname, hparen⟩ := run?_of_outside isOutside_between hpart
    obtain ⟨more, hmore, hnames, hparens⟩ := ih
    refine ⟨ts ++ .literal :: more, ?_, ?_, ?_⟩
    · rw [tokens?, run?_append_quote hrun hquote,
        run?_inLiteral htext, hmore]
      rfl
    · rw [List.filterMap_append, hname, List.filterMap_cons_none rfl, hnames, List.flatMap_cons]
      rfl
    · rw [List.filterMap_append, hparen, List.filterMap_cons_none rfl, hparens, parens, parens,
        List.flatten_cons, List.filter_append]

/-- Where there are tokens, literals are closed. -/
theorem exists_outside (h : tokens? cs = some ts) : ∃ parts, Outside cs parts := by
  induction hlength : cs.length using Nat.strongRecOn generalizing cs ts with
  | ind n ih =>
    cases hfind : cs.find? (IsQuote ·) with
    | none =>
      refine ⟨[cs], .last fun c hc hquote => ?_⟩
      exact List.find?_eq_none.1 hfind c hc (decide_eq_true hquote)
    | some quote =>
      obtain ⟨hquote, part, behind, rfl, hpart⟩ := List.find?_eq_some_iff_append.1 hfind
      have hquote : IsQuote quote := of_decide_eq_true hquote
      have hpart : ∀ c ∈ part, ¬IsQuote c := by simpa using hpart
      obtain ⟨before, hbefore, -⟩ := run?_of_outside isOutside_between hpart
      rw [tokens?, run?_append_quote hbefore hquote] at h
      by_cases hclosed : quote ∈ behind
      · obtain ⟨text, rest, rfl, htext⟩ := List.eq_append_cons_of_mem hclosed
        rw [run?_inLiteral htext, Option.map_map] at h
        obtain ⟨more, hmore, -⟩ := Option.map_eq_some_iff.1 h
        obtain ⟨parts, hparts⟩ := ih rest.length (by simp [← hlength]; omega) hmore rfl
        exact ⟨part :: parts, .literal hpart hquote htext hparts⟩
      · rw [run?_inLiteral_eq_none hclosed] at h
        nomatch h

end Tokens

/-! ### The check -/

section Check

variable {fields more : List FieldSpec} {name : List Char} {ts : List Token} {expression : String}

theorem isKnown_iff : isKnown fields name = true ↔ Known fields name := by
  have htext (s : String) (cs : List Char) : s.toList = cs ↔ s = .ofList cs := by
    rw [eq_comm, ← Text.ofList_eq_iff, eq_comm]
  simp [isKnown, Known, htext, or_comm]

theorem unknown?_eq_none_iff :
    unknown? fields ts = none ↔ ∀ name ∈ ts.filterMap Token.name?, Known fields name := by
  induction ts with
  | nil => simp [unknown?]
  | cons t ts ih =>
    cases t with
    | name cs =>
      have hname : Token.name? (.name cs) = some cs := rfl
      rw [unknown?, List.filterMap_cons_some hname, List.forall_mem_cons, ← ih, ← isKnown_iff]
      split_ifs with hknown <;> simp [hknown]
    | literal | openParen | closeParen | other =>
      rw [unknown?, List.filterMap_cons_none rfl, ih]
      nofun

theorem check_eq_ok_iff :
    check expression fields = .ok () ↔
      Text.isBlankText expression = false ∧ ∃ ts, tokens? expression.toList = some ts ∧
        isBalanced ts = true ∧ (fields ≠ [] → unknown? fields ts = none) := by
  unfold check
  cases Text.isBlankText expression with
  | true => simp
  | false =>
    cases tokens? expression.toList with
    | none => simp
    | some ts =>
      cases hbalanced : isBalanced ts with
      | false => simp [hbalanced]
      | true =>
        cases fields with
        | nil => simp [hbalanced]
        | cons f fields => cases hunknown : unknown? (f :: fields) ts <;> simp [hbalanced, hunknown]

/-- The check accepts the filters in good form. -/
theorem check_eq_ok_iff_wellFormed :
    check expression fields = .ok () ↔ WellFormed fields expression.toList := by
  rw [check_eq_ok_iff]
  refine and_congr ?_ ?_
  · simp [Text.isBlankText]
  · constructor
    · rintro ⟨ts, hts, hbalanced, hknown⟩
      obtain ⟨parts, hparts⟩ := exists_outside hts
      obtain ⟨ts', hts', hnames, hparens⟩ := tokens?_of_outside hparts
      obtain rfl : ts' = ts := Option.some.inj (hts'.symm.trans hts)
      refine ⟨parts, hparts, hparens ▸ isBalanced_iff.1 hbalanced, ?_⟩
      intro hfields part hpart name hname
      have hmem : name ∈ ts'.filterMap Token.name? :=
        hnames ▸ List.mem_flatMap.2 ⟨part, hpart, hname⟩
      exact unknown?_eq_none_iff.1 (hknown hfields) name hmem
    · rintro ⟨parts, hparts, hdyck, hknown⟩
      obtain ⟨ts, hts, hnames, hparens⟩ := tokens?_of_outside hparts
      refine ⟨ts, hts, isBalanced_iff.2 (hparens ▸ hdyck), fun hfields => ?_⟩
      refine unknown?_eq_none_iff.2 fun name hname => ?_
      obtain ⟨part, hpart, hname⟩ := List.mem_flatMap.1 (hnames ▸ hname)
      exact hknown hfields part hpart name hname

/-- What stands in a closed literal does not matter. -/
theorem check_literal {front rest text text' : List Char} {quote : Char} {parts : List (List Char)}
    (hfront : Outside front parts) (hquote : IsQuote quote) (htext : quote ∉ text)
    (htext' : quote ∉ text') (fields : List FieldSpec) :
    check (.ofList (front ++ quote :: (text ++ quote :: rest))) fields =
      check (.ofList (front ++ quote :: (text' ++ quote :: rest))) fields := by
  obtain ⟨ts, hts, -⟩ := tokens?_of_outside hfront
  have hread (tail : List Char) := run?_append_quote hts hquote tail
  have hblank : isBlank quote = false := by rcases hquote with rfl | rfl <;> decide
  have hnot (tail : List Char) : Text.isBlankText (.ofList (front ++ quote :: tail)) = false := by
    simp [Text.isBlankText, hblank]
  simp only [check, hnot, String.toList_ofList, tokens?, hread, run?_inLiteral htext,
    run?_inLiteral htext']

theorem Known.mono (h : Known fields name) (hmore : fields ⊆ more) : Known more name :=
  h.imp_left fun ⟨f, hf, hname⟩ => ⟨f, hmore hf, hname⟩

theorem WellFormed.mono {cs : List Char} (h : WellFormed fields cs) (hne : fields ≠ [])
    (hmore : fields ⊆ more) : WellFormed more cs := by
  obtain ⟨hblank, parts, hparts, hdyck, hknown⟩ := h
  exact ⟨hblank, parts, hparts, hdyck, fun _ part hpart name hname =>
    (hknown hne part hpart name hname).mono hmore⟩

/-- The check accepts a filter if and only if it is in good form: it is not blank, its literals are
closed, and outside of them the parentheses are a word of the grammar and, if there are fields,
every name is one of them, or what stands before its first point is a field or a keyword. So the
check says the same whatever stands in a closed literal, and more fields, where there have been
some, do not change that a filter is accepted. -/
theorem accepted_iff_wellFormed (expression : String) (fields : List FieldSpec) :
    (check expression fields = .ok () ↔ WellFormed fields expression.toList) ∧
      (∀ front parts quote text text' rest, Outside front parts → IsQuote quote → quote ∉ text →
        quote ∉ text' →
        check (.ofList (front ++ quote :: (text ++ quote :: rest))) fields =
          check (.ofList (front ++ quote :: (text' ++ quote :: rest))) fields) ∧
      ∀ more, fields ≠ [] → fields ⊆ more → check expression fields = .ok () →
        check expression more = .ok () := by
  refine ⟨check_eq_ok_iff_wellFormed, ?_, ?_⟩
  · intro front parts quote text text' rest hfront hquote htext htext'
    exact check_literal hfront hquote htext htext' fields
  · intro more hne hmore hok
    rw [check_eq_ok_iff_wellFormed] at hok ⊢
    exact hok.mono hne hmore

/-- A parenthesis in a literal does not count, and a name may follow a number at once. -/
example :
    check "lower(user.name) == ')' or 2x > 1" [⟨"user", "object"⟩, ⟨"x", "int"⟩] = .ok () := by
  rfl

end Check

end PipelineConsole.Filter
