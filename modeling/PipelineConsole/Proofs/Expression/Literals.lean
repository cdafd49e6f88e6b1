import PipelineConsole.Proofs.Expression.Reading
import PipelineConsole.Proofs.Text.Pieces

/-!
# Literals as filters

An expression that has a value on the empty sample names no field: it is a truth value, `nil`, a
number or a quoted text, and there may be calls around it. The check, which cuts the same text into
tokens, accepts most of them. But the letters of a number are names to it, and a quoted text in
which there are quotes is more than one literal.

## Main definitions

* `Expr.Nests` — calls, one in the other, and what is in the innermost of them
* `Expr.Passes` — an expression that is accepted as a filter whatever fields there are
* `Expr.Sealed` — what is in the calls shows no field, no open literal and no odd parenthesis

## Main results

* `Expr.tokens?_of_nests` — the tokens of calls are those of what is in them, in parentheses
* `Expr.passes_iff_sealed` — calls are accepted if what is in them is sealed
* `Expr.sealed_number_iff` — numbers are sealed if they are written without letters
* `Expr.literals_pass_iff` — which literals are accepted
-/

namespace PipelineConsole

open Text (isBlank isLetter)

/-! ### Tokens of texts that are joined -/

namespace Filter

variable {c : Char} {cs front rest tail : List Char} {state : Scan}

theorem isQuote_of_step {quote : Char} (hstate : ∀ q, state = .inLiteral q → IsQuote q)
    (hstep : (state.step c).1 = .inLiteral quote) : IsQuote quote := by
  have hstart (h : (Scan.start c).1 = .inLiteral quote) : IsQuote quote := by
    unfold Scan.start at h
    split_ifs at h with _ _ _ hquote
    obtain rfl := Scan.inLiteral.inj h
    exact hquote
  cases state with
  | between => exact hstart hstep
  | inLiteral q =>
    rw [Scan.step] at hstep
    split_ifs at hstep
    exact Scan.inLiteral.inj hstep ▸ hstate q rfl
  | inNumber | inName =>
    rw [Scan.step] at hstep
    split_ifs at hstep
    exact hstart hstep

/-- A literal that is open stays open, if no quote follows. -/
theorem run?_append_eq_none (hstate : ∀ q, state = .inLiteral q → IsQuote q)
    (hrun : state.run? cs = none) (htail : ∀ d ∈ tail, ¬IsQuote d) :
    state.run? (cs ++ tail) = none := by
  induction cs generalizing state with
  | nil =>
    -- A text that has no tokens ends in a literal.
    cases state with
    | inLiteral q => exact run?_inLiteral_eq_none fun hmem => htail q hmem (hstate q rfl)
    | between | inNumber | inName => nomatch hrun
  | cons c cs ih =>
    rw [run?_cons, Option.map_eq_none_iff] at hrun
    rw [List.cons_append, run?_cons, ih (fun q hq => isQuote_of_step hstate hq) hrun]
    rfl

/-- Where no name can go on and no literal can end, a text can be cut. -/
theorem tokens?_append (hc : continuesName c = false) (hrest : ∀ d ∈ c :: rest, ¬IsQuote d) :
    tokens? (cs ++ c :: rest) =
      (tokens? cs).bind fun ts => (tokens? (c :: rest)).map (ts ++ ·) := by
  cases hrun : tokens? cs with
  | none => exact run?_append_eq_none nofun hrun hrest
  | some ts => exact run?_append hrun hc rest

theorem not_isQuote_of_isBlank (h : isBlank c = true) : ¬IsQuote c := by
  rintro (rfl | rfl)
  · exact absurd h (by decide)
  · exact absurd h (by decide)

theorem tokens?_cons_of_isBlank (h : isBlank c = true) (cs : List Char) :
    tokens? (c :: cs) = tokens? cs := by
  rw [tokens?, run?_cons, Scan.step, Scan.start, if_pos h]
  simp [tokens?]

/-- Blanks in front of a text do not count. -/
theorem tokens?_append_of_isBlank (h : ∀ c ∈ front, isBlank c = true) (cs : List Char) :
    tokens? (front ++ cs) = tokens? cs := by
  induction front with
  | nil => rfl
  | cons c front ih =>
    obtain ⟨hc, hfront⟩ := List.forall_mem_cons.1 h
    rw [List.cons_append, tokens?_cons_of_isBlank hc, ih hfront]

/-- Blanks around a text do not count. -/
theorem tokens?_trimmed (cs : List Char) : tokens? (Text.trimmed cs) = tokens? cs := by
  have hdrop : tokens? cs = tokens? (Text.dropBlanks cs) := by
    have hfront : ∀ c ∈ cs.takeWhile isBlank, isBlank c = true := fun c hc =>
      List.mem_takeWhile_imp hc
    have hcs := tokens?_append_of_isBlank hfront (Text.dropBlanks cs)
    rwa [Text.dropBlanks, List.takeWhile_append_dropWhile] at hcs
  rw [hdrop]
  obtain ⟨back, hback, happend⟩ : ∃ back : List Char, (∀ c ∈ back, isBlank c = true) ∧
      Text.dropBlanks cs = Text.trimmed cs ++ back :=
    ⟨(Text.dropBlanks cs).rtakeWhile isBlank, fun c hc => List.mem_rtakeWhile_imp hc,
      (List.rdropWhile_append_rtakeWhile ..).symm⟩
  rw [happend]
  cases back with
  | nil => rw [List.append_nil]
  | cons c back =>
    have hblank : tokens? (c :: back) = some [] := by
      have hback := tokens?_append_of_isBlank hback []
      rwa [List.append_nil] at hback
    have hc := continuesName_of_isBlank (hback c List.mem_cons_self)
    rw [tokens?_append hc fun d hd => not_isQuote_of_isBlank (hback d hd), hblank]
    simp

end Filter

/-! ### Calls -/

namespace Expr

open PipelineConsole.Filter

variable {f : TextFunction} {fs gs : List TextFunction} {text leaf cs argument : List Char}

/-- Calls, one in the other, and what is in the innermost of them, without the blanks around it. -/
inductive Nests : List TextFunction → List Char → List Char → Prop
  | leaf {text : List Char} (hleaf : call? (Text.trimmed text) = none) :
    Nests [] text (Text.trimmed text)
  | call {f : TextFunction} {fs : List TextFunction} {text argument leaf : List Char}
    (hcall : call? (Text.trimmed text) = some (f, argument)) (hrest : Nests fs argument leaf) :
    Nests (f :: fs) text leaf

theorem exists_nests (text : List Char) : ∃ fs leaf, Nests fs text leaf := by
  induction hlength : text.length using Nat.strongRecOn generalizing text with
  | ind n ih =>
    cases hcall : call? (Text.trimmed text) with
    | none => exact ⟨[], _, .leaf hcall⟩
    | some call =>
      obtain ⟨f, argument⟩ := call
      have hshorter : argument.length < n :=
        hlength ▸ (length_call? hcall).trans_le (length_trimmed_le text)
      obtain ⟨fs, leaf, h⟩ := ih argument.length hshorter argument rfl
      exact ⟨f :: fs, leaf, .call hcall h⟩

theorem Nests.unique {leaf' : List Char} (h : Nests fs text leaf) (h' : Nests gs text leaf') :
    fs = gs ∧ leaf = leaf' := by
  induction h generalizing gs with
  | leaf hleaf =>
    cases h' with
    | leaf => exact ⟨rfl, rfl⟩
    | call hcall => nomatch hleaf.symm.trans hcall
  | call hcall _ ih =>
    cases h' with
    | leaf hleaf => nomatch hleaf.symm.trans hcall
    | call hcall' hrest =>
      obtain ⟨rfl, rfl⟩ := Prod.mk.inj (Option.some.inj (hcall.symm.trans hcall'))
      obtain ⟨rfl, rfl⟩ := ih hrest
      exact ⟨rfl, rfl⟩

/-- What is in the calls is no call, and there are no blanks around it. -/
theorem Nests.leaf_eq (h : Nests fs text leaf) : Text.trimmed leaf = leaf ∧ call? leaf = none := by
  induction h with
  | leaf hleaf => exact ⟨Text.trimmed_trimmed _, hleaf⟩
  | call _ _ ih => exact ih

theorem Nests.not_blank (h : Nests fs text leaf) (hne : leaf ≠ []) : text.all isBlank = false := by
  have htrimmed : Text.trimmed text ≠ [] := by
    cases h with
    | leaf => exact hne
    | call hcall =>
      intro hnil
      rw [hnil] at hcall
      nomatch hcall
  by_contra hblank
  rw [Bool.not_eq_false, List.all_eq_true] at hblank
  have hall := Text.all_isBlank_trimmed htrimmed
  rw [List.all_eq_false] at hall
  obtain ⟨c, hc, hnot⟩ := hall
  exact hnot (hblank c (Text.mem_of_mem_trimmed hc))

/-! ### Tokens of calls -/

/-- The tokens of a call of a function on an argument with the given tokens. -/
def callTokens (f : TextFunction) (ts : List Token) : List Token :=
  .name f.name.toList :: .openParen :: (ts ++ [.closeParen])

theorem tokens?_name (f : TextFunction) :
    tokens? f.name.toList = some [.name f.name.toList] := by
  cases f <;> decide

/-- The tokens of a call are those of its argument, in parentheses and behind a name. -/
theorem tokens?_of_call (hcall : call? cs = some (f, argument)) :
    tokens? cs = (tokens? argument).map (callTokens f) := by
  obtain ⟨blanks, hblanks, rfl⟩ := form_of_call? hcall
  have hclose : tokens? (argument ++ [')']) = (tokens? argument).map (· ++ [.closeParen]) := by
    rw [tokens?_append (by decide) (by simp [IsQuote])]
    cases tokens? argument <;> rfl
  have hopen (rest : List Char) :
      tokens? ('(' :: rest) = (tokens? rest).map (.openParen :: ·) := rfl
  have hbehind : tokens? (blanks ++ '(' :: (argument ++ [')'])) =
      (tokens? argument).map fun ts => .openParen :: (ts ++ [.closeParen]) := by
    rw [tokens?_append_of_isBlank hblanks, hopen, hclose, Option.map_map]
    rfl
  -- The name ends at the first blank, or at the parenthesis.
  obtain ⟨c, rest, heq, hc⟩ : ∃ c rest, blanks ++ '(' :: (argument ++ [')']) = c :: rest ∧
      continuesName c = false := by
    cases blanks with
    | nil => exact ⟨_, _, rfl, by decide⟩
    | cons c blanks => exact ⟨_, _, rfl, continuesName_of_isBlank (hblanks c List.mem_cons_self)⟩
  rw [heq] at hbehind ⊢
  rw [tokens?, run?_append (tokens?_name f) hc, hbehind, Option.map_map]
  rfl

theorem tokens?_of_nests (h : Nests fs text leaf) :
    tokens? text = (tokens? leaf).map fun ts => fs.foldr callTokens ts := by
  induction h with
  | leaf =>
    rw [tokens?_trimmed]
    exact Option.map_id'.symm
  | call hcall _ ih =>
    rw [← tokens?_trimmed, tokens?_of_call hcall, ih, Option.map_map]
    rfl

theorem parens_callTokens (f : TextFunction) (ts : List Token) :
    (callTokens f ts).filterMap Token.paren? = '(' :: (ts.filterMap Token.paren? ++ [')']) := by
  rw [callTokens, List.filterMap_cons_none rfl]
  simp [Token.paren?]

theorem names_callTokens (f : TextFunction) (ts : List Token) :
    (callTokens f ts).filterMap Token.name? = f.name.toList :: ts.filterMap Token.name? := by
  have hopen : Token.name? .openParen = none := rfl
  rw [callTokens, List.filterMap_cons, List.filterMap_cons_none hopen, List.filterMap_append]
  simp [Token.name?]

/-- Calls put parentheses around those of what is in them. -/
theorem parens_foldr (fs : List TextFunction) (ts : List Token) :
    (fs.foldr callTokens ts).filterMap Token.paren? =
      List.replicate fs.length '(' ++
        (ts.filterMap Token.paren? ++ List.replicate fs.length ')') := by
  induction fs with
  | nil => simp
  | cons f fs ih =>
    rw [List.foldr_cons, parens_callTokens, ih, List.length_cons, List.replicate_succ,
      List.replicate_succ']
    simp only [List.cons_append, List.append_assoc]

/-- Calls add their names, which are keywords. -/
theorem names_foldr (fs : List TextFunction) (ts : List Token) :
    (∀ name ∈ (fs.foldr callTokens ts).filterMap Token.name?,
        String.ofList (root name) ∈ keywords) ↔
      ∀ name ∈ ts.filterMap Token.name?, String.ofList (root name) ∈ keywords := by
  have hname (f : TextFunction) : String.ofList (root f.name.toList) ∈ keywords := by
    cases f <;> decide
  induction fs with
  | nil => rfl
  | cons f fs ih =>
    rw [List.foldr_cons, names_callTokens, List.forall_mem_cons]
    exact (and_iff_right (hname f)).trans ih

/-! ### What is in the calls -/

/-- An expression that is accepted as a filter, whatever fields there are. -/
def Passes (expression : String) : Prop :=
  ∀ fields, Filter.check expression fields = .ok ()

/-- The literals of a text are closed, and outside of them all names belong to keywords and the
parentheses match, together with those of some calls around the text. -/
def Sealed (depth : Nat) (cs : List Char) : Prop :=
  ∃ parts, Outside cs parts ∧
    Dyck (List.replicate depth '(' ++ (parens parts ++ List.replicate depth ')')) ∧
    ∀ name ∈ parts.flatMap names, String.ofList (root name) ∈ keywords

/-- A name that is known whatever fields there are belongs to a keyword. -/
theorem known_iff {name : List Char} :
    (∀ fields ≠ [], Known fields name) ↔ String.ofList (root name) ∈ keywords := by
  constructor
  · intro h
    by_contra hkeyword
    have hroot (s : String) (hs : root s.toList = s.toList) : root name = s.toList := by
      rcases h [⟨s, ""⟩] (by simp) with ⟨f, hf, hname⟩ | hname
      · obtain rfl := List.mem_singleton.1 hf
        rcases hname with rfl | rfl
        · simpa using hs
        · simp
      · exact absurd hname hkeyword
    have ha := hroot "a" (by decide)
    have hb := hroot "b" (by decide)
    exact absurd (ha.symm.trans hb) (by decide)
  · exact fun h _ _ => .inr h

theorem passes_iff {expression : String} :
    Passes expression ↔
      Text.isBlankText expression = false ∧ ∃ ts, tokens? expression.toList = some ts ∧
        isBalanced ts = true ∧
          ∀ name ∈ ts.filterMap Token.name?, String.ofList (root name) ∈ keywords := by
  constructor
  · intro h
    obtain ⟨hblank, ts, hts, hbalanced, -⟩ := check_eq_ok_iff.1 (h [])
    refine ⟨hblank, ts, hts, hbalanced, fun name hname => known_iff.1 fun fields hne => ?_⟩
    obtain ⟨-, ts', hts', -, hknown⟩ := check_eq_ok_iff.1 (h fields)
    obtain rfl : ts = ts' := Option.some.inj (hts.symm.trans hts')
    exact unknown?_eq_none_iff.1 (hknown hne) name hname
  · rintro ⟨hblank, ts, hts, hbalanced, hkeywords⟩ fields
    refine check_eq_ok_iff.2 ⟨hblank, ts, hts, hbalanced, fun hne => ?_⟩
    exact unknown?_eq_none_iff.2 fun name hname => known_iff.2 (hkeywords name hname) fields hne

/-- Calls pass if and only if what is in them is sealed. -/
theorem passes_iff_sealed {expression : String} (h : Nests fs expression.toList leaf)
    (hne : leaf ≠ []) : Passes expression ↔ Sealed fs.length leaf := by
  have hblank : Text.isBlankText expression = false := h.not_blank hne
  rw [passes_iff, tokens?_of_nests h]
  constructor
  · rintro ⟨-, ts, hts, hbalanced, hkeywords⟩
    obtain ⟨ts, hleaf, rfl⟩ := Option.map_eq_some_iff.1 hts
    obtain ⟨parts, hparts⟩ := exists_outside hleaf
    obtain ⟨ts', hts', hnames, hparens⟩ := tokens?_of_outside hparts
    obtain rfl : ts' = ts := Option.some.inj (hts'.symm.trans hleaf)
    rw [isBalanced_iff, parens_foldr, hparens] at hbalanced
    rw [names_foldr, hnames] at hkeywords
    exact ⟨parts, hparts, hbalanced, hkeywords⟩
  · rintro ⟨parts, hparts, hdyck, hkeywords⟩
    obtain ⟨ts, hts, hnames, hparens⟩ := tokens?_of_outside hparts
    refine ⟨hblank, fs.foldr callTokens ts, by rw [hts]; rfl, ?_, ?_⟩
    · rwa [isBalanced_iff, parens_foldr, hparens]
    · rwa [names_foldr, hnames]

theorem dyck_replicate (depth : Nat) :
    Dyck (List.replicate depth '(' ++ List.replicate depth ')') := by
  induction depth with
  | zero => exact .nil
  | succ depth ih =>
    rw [List.replicate_succ, List.replicate_succ', List.cons_append, ← List.append_assoc]
    exact .wrap ih .nil

/-- Without quotes and parentheses, only names count. -/
theorem sealed_iff_of_plain {depth : Nat} (hquote : ∀ c ∈ cs, ¬IsQuote c)
    (hparen : ∀ c ∈ cs, isParen c = false) :
    Sealed depth cs ↔ ∀ name ∈ names cs, String.ofList (root name) ∈ keywords := by
  constructor
  · rintro ⟨parts, hparts, -, hkeywords⟩
    cases hparts with
    | last => simpa using hkeywords
    | literal _ hliteral => exact absurd hliteral (hquote _ (by simp))
  · intro hkeywords
    have hnone : parens [cs] = [] := by simpa [parens] using hparen
    refine ⟨[cs], .last hquote, ?_, by simpa using hkeywords⟩
    rw [hnone]
    exact dyck_replicate depth

theorem sealed_keyword {depth : Nat}
    (h : leaf ∈ ["true".toList, "false".toList, "nil".toList]) : Sealed depth leaf := by
  have hplain : ∀ leaf ∈ ["true".toList, "false".toList, "nil".toList],
      (leaf.all fun c => ¬IsQuote c) = true ∧ (leaf.all fun c => isParen c = false) = true ∧
        ∀ name ∈ names leaf, String.ofList (root name) ∈ keywords := by decide
  obtain ⟨hquote, hparen, hkeywords⟩ := hplain leaf h
  exact (sealed_iff_of_plain (by simpa using hquote) (by simpa using hparen)).2 hkeywords

/-- A quoted text without another quote of its kind is one literal. -/
theorem sealed_quoted {depth : Nat} {inner : List Char} (h : '"' ∉ inner) :
    Sealed depth ('"' :: (inner ++ ['"'])) := by
  have hparts : Outside ([] ++ '"' :: (inner ++ '"' :: [])) [[], []] :=
    .literal nofun (.inl rfl) h (.last nofun)
  exact ⟨_, hparts, dyck_replicate depth, by simp [names_nil]⟩

/-! ### Numbers -/

theorem Wordlike.names_eq (h : Wordlike cs) : names cs = [cs] := by
  obtain ⟨c, rest, rfl, hstart⟩ := h.starts
  have hrest : ∀ d ∈ rest, continuesName d = true := fun d hd =>
    h.continues d (List.mem_cons_of_mem c hd)
  rw [names_cons_of_starts hstart, List.takeWhile_eq_self_iff.2 hrest,
    List.dropWhile_eq_nil_iff.2 hrest, names_nil]

theorem isAlpha_of_isWord (h : Number.IsWord cs) {c : Char} (hc : c ∈ cs) : c.isAlpha = true := by
  have hwords : ∀ w ∈ Number.words, w.all Char.isLower = true := by decide
  exact Text.isAlpha_of_toLower (List.all_eq_true.1 (hwords _ h) _ (List.mem_map_of_mem hc))

theorem startsName_of_isWord (h : Number.IsWord cs) {c : Char} (hc : c ∈ cs) :
    startsName c = true := by
  rw [startsName, Text.isLetter_of_isAlpha (isAlpha_of_isWord h hc), Bool.true_or]

theorem wordlike_of_isWord (h : Number.IsWord cs) : Wordlike cs where
  starts := by
    cases cs with
    | nil => exact absurd h (by decide)
    | cons c rest => exact ⟨c, rest, rfl, startsName_of_isWord h List.mem_cons_self⟩
  continues _ hc := continuesName_of_startsName (startsName_of_isWord h hc)

/-- A name without points is its own root. -/
theorem root_eq_self {name : List Char} (h : '.' ∉ name) : root name = name :=
  List.takeWhile_eq_self_iff.2 fun _ hc => decide_eq_true fun heq => h (heq ▸ hc)

/-- A word for infinity or for no number is a name, and no keyword. -/
theorem names_of_isWord (h : Number.IsWord cs) :
    ∃ name ∈ names cs, String.ofList (root name) ∉ keywords := by
  have hkeywords : ∀ k ∈ keywords, ¬Number.IsWord k.toList := by decide
  have hpoint : '.' ∉ cs := fun hmem => absurd (isAlpha_of_isWord h hmem) (by decide)
  refine ⟨cs, by simp [(wordlike_of_isWord h).names_eq], fun hmem => hkeywords _ hmem ?_⟩
  rwa [root_eq_self hpoint, String.toList_ofList]

/-- The letter of an exponent and the digits directly behind it are a name, and no keyword. -/
theorem names_of_isExponent (h : Number.IsExponent cs) :
    ∃ name ∈ names cs, String.ofList (root name) ∉ keywords := by
  have hkeywords : ∀ k ∈ keywords, k.toList.head? = some 'e' ∨ k.toList.head? = some 'E' →
      k.toList.tail.all Char.isDigit = false := by decide
  obtain ⟨letter, sign, digits, rfl, hletter, hsign, -, hdigits⟩ := h
  have hrun : ∀ c ∈ (sign ++ digits).takeWhile continuesName, c.isDigit = true := by
    intro c hc
    rcases List.mem_append.1 ((List.takeWhile_prefix _).subset hc) with hmem | hmem
    · have hcontinues := List.mem_takeWhile_imp hc
      -- A sign cannot go on with the name, so that the name ends before it.
      rcases hsign.eq_of_mem hmem with rfl | rfl
      · exact absurd hcontinues (by decide)
      · exact absurd hcontinues (by decide)
    · exact hdigits c hmem
  have hstart : startsName letter = true := by rcases hletter with rfl | rfl <;> decide
  have hpoint : '.' ∉ letter :: (sign ++ digits).takeWhile continuesName := by
    rw [List.mem_cons, not_or]
    refine ⟨?_, fun hmem => absurd (hrun _ hmem) (by decide)⟩
    rintro rfl
    exact absurd hstart (by decide)
  refine ⟨_, by rw [names_cons_of_starts hstart]; exact List.mem_cons_self, fun hmem => ?_⟩
  rw [root_eq_self hpoint] at hmem
  have hall := hkeywords _ hmem (by simpa using hletter)
  rw [String.toList_ofList, List.tail_cons, List.all_eq_false] at hall
  obtain ⟨c, hc, hnot⟩ := hall
  exact hnot (hrun c hc)

theorem names_append_of_not_starts (h : ∀ c ∈ cs, startsName c = false) (rest : List Char) :
    names (cs ++ rest) = names rest := by
  induction cs with
  | nil => rfl
  | cons c cs ih =>
    obtain ⟨hc, hcs⟩ := List.forall_mem_cons.1 h
    rw [List.cons_append, names_cons_of_not_starts hc, ih hcs]

/-- A character of numbers: a letter, a digit, a point or a sign. -/
def isNumeric (c : Char) : Bool := c.isAlphanum || c = '.' || c = '-' || c = '+'

theorem isNumeric_of_readDouble? {x : Binary64} (h : Number.readDouble? cs = some x) :
    ∀ c ∈ cs, isNumeric c = true := by
  have hsigned {sign : List Char} (hsign : Number.IsSign sign) :
      ∀ c ∈ sign, isNumeric c = true := by
    intro c hc
    rcases hsign.eq_of_mem hc with rfl | rfl <;> rfl
  have hdigit {c : Char} (hc : c.isDigit = true) : isNumeric c = true := by
    simp [isNumeric, Char.isAlphanum, hc]
  obtain ⟨sign, magnitude, rfl, hsign, hform⟩ := Number.form_of_readDouble? h
  refine List.forall_mem_append.2 ⟨hsigned hsign, ?_⟩
  rcases hform with hword | ⟨digits, exponent, rfl, -, hdigits, hexponent⟩
  · intro c hc
    simp [isNumeric, Char.isAlphanum, isAlpha_of_isWord hword hc]
  · refine List.forall_mem_append.2 ⟨fun c hc => ?_, ?_⟩
    · rcases Bool.or_eq_true_iff.1 (hdigits c hc) with hc | hc
      · exact hdigit hc
      · exact of_decide_eq_true hc ▸ rfl
    · rcases hexponent with rfl | ⟨letter, sign, digits, rfl, hletter, hsign, -, hdigits⟩
      · nofun
      · refine List.forall_mem_cons.2 ⟨?_, List.forall_mem_append.2 ⟨hsigned hsign, ?_⟩⟩
        · rcases hletter with rfl | rfl <;> rfl
        · exact fun c hc => hdigit (hdigits c hc)

/-- The letters of a number show a name that is no keyword. -/
theorem names_of_readDouble? {x : Binary64} (h : Number.readDouble? cs = some x) :
    (∀ name ∈ names cs, String.ofList (root name) ∈ keywords) ↔ ∀ c ∈ cs, isLetter c = false := by
  constructor
  · intro hkeywords
    obtain ⟨sign, magnitude, rfl, hsign, hform⟩ := Number.form_of_readDouble? h
    have hplain : ∀ c ∈ sign, startsName c = false ∧ isLetter c = false := by
      intro c hc
      rcases hsign.eq_of_mem hc with rfl | rfl <;> decide
    rw [names_append_of_not_starts fun c hc => (hplain c hc).1] at hkeywords
    refine List.forall_mem_append.2 ⟨fun c hc => (hplain c hc).2, ?_⟩
    rcases hform with hword | ⟨digits, exponent, rfl, -, hdigits, hexponent⟩
    · obtain ⟨name, hname, hnot⟩ := names_of_isWord hword
      exact absurd (hkeywords name hname) hnot
    · rw [names_append_of_not_starts fun c hc => (of_number (hdigits c hc)).1] at hkeywords
      rcases hexponent with rfl | hexponent
      · rw [List.append_nil]
        exact fun c hc => (Bool.or_eq_false_iff.1 (of_number (hdigits c hc)).1).1
      · obtain ⟨name, hname, hnot⟩ := names_of_isExponent hexponent
        exact absurd (hkeywords name hname) hnot
  · intro hplain
    have hstart : ∀ c ∈ cs, startsName c = false := by
      intro c hc
      have hunderscore : c ≠ '_' := by
        rintro rfl
        exact absurd (isNumeric_of_readDouble? h '_' hc) (by decide)
      simp [startsName, hplain c hc, hunderscore]
    have hnames := names_append_of_not_starts hstart []
    rw [List.append_nil, names_nil] at hnames
    rw [hnames]
    exact List.forall_mem_nil _

/-- A number is sealed if and only if it is written without letters. -/
theorem sealed_number_iff {depth : Nat} {x : Binary64} (h : Number.readDouble? cs = some x) :
    Sealed depth cs ↔ ∀ c ∈ cs, isLetter c = false := by
  have hnumeric := isNumeric_of_readDouble? h
  have hquote : ∀ c ∈ cs, ¬IsQuote c := by
    rintro c hc (rfl | rfl)
    · exact absurd (hnumeric _ hc) (by decide)
    · exact absurd (hnumeric _ hc) (by decide)
  have hparen : ∀ c ∈ cs, isParen c = false := by
    intro c hc
    by_contra hparen
    rcases Bool.or_eq_true_iff.1 (Bool.not_eq_false _ ▸ hparen) with heq | heq
    · exact absurd (of_decide_eq_true heq ▸ hnumeric c hc) (by decide)
    · exact absurd (of_decide_eq_true heq ▸ hnumeric c hc) (by decide)
  rw [sealed_iff_of_plain hquote hparen, names_of_readDouble? h]

/-! ### Values on the empty sample -/

variable {v : Json.Value}

/-- Calls have a value only where what is in them has one. -/
theorem Nests.exists_eval {sample : Json.Value} (h : Nests fs text leaf)
    (heval : (ofChars text).eval sample = .ok v) :
    ∃ w, (ofChars leaf).eval sample = .ok w := by
  induction h generalizing v with
  | @leaf text hleaf =>
    have hsame : ofChars (Text.trimmed text) = ofChars text := by
      rw [ofChars_of_not_call (by rwa [Text.trimmed_trimmed]), ofChars_of_not_call hleaf,
        Text.trimmed_trimmed]
    exact ⟨v, hsame ▸ heval⟩
  | @call f fs text argument leaf hcall _ ih =>
    rw [ofChars_of_call hcall, eval] at heval
    cases hargument : (ofChars argument).eval sample with
    | error fault =>
      rw [hargument] at heval
      nomatch heval
    | ok w => exact ih hargument

/-- Nothing is found in the empty sample. -/
theorem lookup?_empty (path : List Char) : lookup? (.object []) path = none := by
  rw [lookup?]
  cases hpieces : Text.pieces '.' path with
  | nil => exact absurd hpieces (Text.pieces_ne_nil path)
  | cons name rest => rfl

/-- What has a value on the empty sample, and is no call, is a literal. -/
theorem literal_of_eval (htrimmed : Text.trimmed leaf = leaf) (hcall : call? leaf = none)
    (heval : (ofChars leaf).eval (.object []) = .ok v) :
    leaf ∈ ["true".toList, "false".toList, "nil".toList] ∨
      (∃ x, Number.readDouble? leaf = some x) ∨ ∃ inner, leaf = '"' :: (inner ++ ['"']) := by
  rw [ofChars_of_not_call (htrimmed.symm ▸ hcall), htrimmed] at heval
  cases hquoted : quoted? leaf with
  | some inner => exact .inr (.inr ⟨inner, quoted?_eq_some_iff.1 hquoted⟩)
  | none =>
    cases hnumber : Number.readDouble? leaf with
    | some x => exact .inr (.inl ⟨x, rfl⟩)
    | none =>
      rw [hquoted, hnumber] at heval
      dsimp only at heval
      split_ifs at heval with htrue hfalse hnil
      · simp [htrue]
      · simp [hfalse]
      · simp [hnil]
      · rw [eval, lookup?_empty] at heval
        nomatch heval

/-- An expression that has a value on the empty sample is a literal, and there may be calls around
it. It passes if the literal is a truth value or `nil`; a number passes if and only if it is written
without letters, that is without an exponent and not as a word; and a quoted text passes if there is
no other quote of its kind in it, and else if and only if it is sealed all the same. -/
theorem literals_pass_iff {expression : String}
    (h : (ofChars expression.toList).eval (.object []) = .ok v) :
    ∃ calls leaf, Nests calls expression.toList leaf ∧
      (leaf ∈ ["true".toList, "false".toList, "nil".toList] ∧ Passes expression ∨
        (∃ x, Number.readDouble? leaf = some x) ∧
          (Passes expression ↔ ∀ c ∈ leaf, isLetter c = false) ∨
        ∃ inner, leaf = '"' :: (inner ++ ['"']) ∧ ('"' ∉ inner → Passes expression) ∧
          (Passes expression ↔ Sealed calls.length leaf)) := by
  obtain ⟨calls, leaf, hnests⟩ := exists_nests expression.toList
  obtain ⟨htrimmed, hcall⟩ := hnests.leaf_eq
  obtain ⟨w, heval⟩ := hnests.exists_eval h
  refine ⟨calls, leaf, hnests, ?_⟩
  rcases literal_of_eval htrimmed hcall heval with hkeyword | ⟨x, hnumber⟩ | ⟨inner, rfl⟩
  · have hne : leaf ≠ [] := by
      rintro rfl
      exact absurd hkeyword (by decide)
    exact .inl ⟨hkeyword, (passes_iff_sealed hnests hne).2 (sealed_keyword hkeyword)⟩
  · have hne : leaf ≠ [] := by
      rintro rfl
      nomatch hnumber
    have hpasses := (passes_iff_sealed hnests hne).trans (sealed_number_iff hnumber)
    exact .inr (.inl ⟨⟨x, hnumber⟩, hpasses⟩)
  · have hpasses := passes_iff_sealed hnests (List.cons_ne_nil _ _)
    exact .inr (.inr ⟨inner, rfl, fun hinner => hpasses.2 (sealed_quoted hinner), hpasses⟩)

/-- Calls around a quoted text with another kind of quote and a parenthesis in it. -/
theorem shoutedText_passes :
    (ofChars "upper( trim(\"it's (here\") )".toList).eval (.object []) =
        .ok (.string (Text.toUpper (Text.trim "it's (here"))) ∧
      Passes "upper( trim(\"it's (here\") )" := by
  have houter : call? (Text.trimmed "upper( trim(\"it's (here\") )".toList) =
      some (.upper, " trim(\"it's (here\") ".toList) := by decide
  have hinner : call? (Text.trimmed " trim(\"it's (here\") ".toList) =
      some (.trim, "\"it's (here\"".toList) := by decide
  have hleaf : call? (Text.trimmed "\"it's (here\"".toList) = none := by decide
  have heval : (ofChars "upper( trim(\"it's (here\") )".toList).eval (.object []) =
      .ok (.string (Text.toUpper (Text.trim "it's (here"))) := by
    rw [ofChars_of_call houter, ofChars_of_call hinner, ofChars_of_not_call hleaf]
    rfl
  refine ⟨heval, ?_⟩
  obtain ⟨calls, leaf, hnests, hpasses⟩ := literals_pass_iff heval
  obtain ⟨-, rfl⟩ := hnests.unique (.call houter (.call hinner (.leaf hleaf)))
  rcases hpasses with ⟨-, h⟩ | ⟨⟨x, hnumber⟩, -⟩ | ⟨inner, hquoted, h, -⟩
  · exact h
  · exact absurd (isNumeric_of_readDouble? hnumber '"' (by decide)) (by decide)
  · obtain rfl : "it's (here".toList = inner := by
      have hquoted := quoted?_eq_some_iff.2 hquoted
      exact Option.some.inj hquoted
    exact h (by decide)

/-- A number with an exponent, and a quoted text with a quote in it, have a value on the empty
sample. But the exponent is taken for a name, and the last quote for the start of a literal. -/
theorem exponent_is_unknown :
    (∃ x, Number.readDouble? "1e5".toList = some x ∧
        (ofChars "1e5".toList).eval (.object []) = .ok (.double x)) ∧
      Filter.check "1e5" [⟨"age", "int"⟩] = .error (.unknownField "e5") ∧
      (ofChars "\"a\"b\"".toList).eval (.object []) = .ok (.string "a\"b") ∧
      Filter.check "\"a\"b\"" [] = .error .openLiteral := by
  have hnumber : call? (Text.trimmed "1e5".toList) = none := by decide
  have hquoted : call? (Text.trimmed "\"a\"b\"".toList) = none := by decide
  refine ⟨⟨_, rfl, ?_⟩, by decide, ?_, by decide⟩
  · rw [ofChars_of_not_call hnumber]
    rfl
  · rw [ofChars_of_not_call hquoted]
    rfl

end Expr

end PipelineConsole
