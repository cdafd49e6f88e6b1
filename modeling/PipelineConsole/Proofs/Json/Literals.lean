import PipelineConsole.Proofs.Json.Printer
import PipelineConsole.Proofs.Json.ReadRecord

/-!
# Doubles as texts

Whether a double survives being written depends on its digits only: if its text, read as a document
of its own, gives the double, then the double is read as itself wherever it stands in a document.
The text of a double has no characters but those of literals, so that it is one token or is cut by
a fault or into several.

## Main definitions

* `ofLiteral` — the octets that literals are made of
* `SurvivesText` — a double that its text is read as

## Main results

* `Scan.run_literal` — octets of literals are one number, or more than one token
* `readsBack_float` — a double that survives is read as itself anywhere
-/

namespace PipelineConsole.Json

open Text.Utf8 (Bytes encodeChars encode)

/-- Whether an octet may stand in a written number. -/
def ofLiteral (b : UInt8) : Bool := Scan.isDigit b || b ∈ [0x2D, 0x2B, 0x2E, 0x65]

/-- A finite double is written with such octets. -/
theorem ofLiteral_of_mem_finiteText {negative : Bool} {m : Nat} {q : Int} {b : UInt8}
    (hb : b ∈ encodeChars (Binary64.finiteText negative m q)) : ofLiteral b = true := by
  have hone {c : Char} (hc : c.toNat < 0x80) (hcode : ofLiteral (UInt8.ofNat c.toNat) = true) :
      ∀ b ∈ String.utf8EncodeChar c, ofLiteral b = true := by
    rw [Text.Utf8.utf8EncodeChar_ascii hc]
    exact fun b hb => List.mem_singleton.1 hb ▸ hcode
  have hdigit (c : Char) (hc : c.isDigit = true) :
      ∀ b ∈ String.utf8EncodeChar c, ofLiteral b = true := by
    have hrange : 48 ≤ c.toNat ∧ c.toNat ≤ 57 := by
      simpa [Char.isDigit, UInt32.le_iff_toNat_le] using hc
    have hdigits : ∀ n < 58, 48 ≤ n → ofLiteral (UInt8.ofNat n) = true := by decide
    exact hone (by omega) (hdigits _ (by omega) hrange.1)
  have hmark : ∀ c ∈ ['-', '+', '.', 'e'], ∀ b ∈ String.utf8EncodeChar c, ofLiteral b = true := by
    intro c hc
    simp only [List.mem_cons, List.not_mem_nil, or_false] at hc
    rcases hc with rfl | rfl | rfl | rfl <;> exact hone (by decide) (by decide)
  obtain ⟨c, hc, hb⟩ := List.mem_flatMap.1 hb
  exact forall_mem_finiteText hdigit hmark negative m q c hc b hb

namespace Scan

/-- Such an octet starts a number, or nothing. -/
theorem start_ofLiteral {b : UInt8} (hb : ofLiteral b = true) :
    (∃ part n, start b = (.inNumeral part n, [])) ∨ start b = fail := by
  unfold start
  split
  all_goals first
    | exact absurd hb (by decide)
    | exact .inl ⟨_, _, rfl⟩
    | skip
  split
  · exact .inl ⟨_, _, rfl⟩
  · exact .inr rfl

/-- Octets of literals end a number that was begun, or they end in a fault, or something comes
behind the number. -/
theorem run_literal {part : NumeralPart} {n : Numeral} {bs : Bytes}
    (hbs : ∀ b ∈ bs, ofLiteral b = true) :
    (∃ x, run (.inNumeral part n) bs = [.number x] ∧ ∀ rest, Delimited rest →
        run (.inNumeral part n) (bs ++ rest) = .number x :: run .between rest) ∨
      (∃ ts, run (.inNumeral part n) bs = .fault :: ts) ∨
      ∃ x t ts, run (.inNumeral part n) bs = .number x :: t :: ts := by
  -- For all states inside a literal at once, as another literal may begin where one ends.
  induction bs generalizing part n with
  | nil =>
    rw [run, finish]
    split
    · next hpart => exact .inl ⟨_, rfl, fun rest hrest => run_inNumeral hpart hrest⟩
    · exact .inr (.inl ⟨[], rfl⟩)
  | cons b bs ih =>
    obtain ⟨hb, hbs⟩ := List.forall_mem_cons.1 hbs
    simp only [List.cons_append, run_cons, step, numeral]
    split
    · exact ih hbs
    · split
      · refine .inr (.inr ?_)
        dsimp only
        rcases start_ofLiteral hb with ⟨part, n, hstart⟩ | hstart
        · rw [hstart]
          rcases ih hbs with ⟨x, hx, -⟩ | ⟨ts, hts⟩ | ⟨x, t, ts, hts⟩
          · exact ⟨_, _, _, congrArg _ hx⟩
          · exact ⟨_, _, _, congrArg _ hts⟩
          · exact ⟨_, _, _, congrArg _ hts⟩
        · rw [hstart]
          exact ⟨_, _, _, rfl⟩
      · exact .inr (.inl ⟨_, rfl⟩)

end Scan

namespace Tree

/-- Past a value of one token, all that counts is whether anything follows. -/
theorem ofTokens_cons {t : Token} {tree : Tree} {trailing : Bool}
    (h : Builder.step (.building [] .value) t = .done tree trailing) (ts : List Token) :
    ofTokens (t :: ts) = (tree, trailing || !ts.isEmpty) := by
  have hdone (ts : List Token) : ts.foldl Builder.step (.done tree true) = .done tree true := by
    induction ts with
    | nil => rfl
    | cons t ts ih => exact ih
  rw [ofTokens, List.foldl_cons, h]
  cases ts with
  | nil => simp [Builder.finish]
  | cons u ts => simp [Builder.step, hdone, Builder.finish]

end Tree

/-- A text of such octets that is read as a number is one token, and stays so before what may follow
a number. -/
theorem Scan.run_of_ofBytes {bs : Bytes} (hbs : ∀ b ∈ bs, ofLiteral b = true) {x : Option Number}
    (h : Tree.ofBytes bs = (.number x, false)) {rest : Bytes} (hrest : Delimited rest) :
    run .between (bs ++ rest) = .number x :: run .between rest := by
  cases bs with
  | nil => cases h
  | cons b bs =>
    obtain ⟨hb, hbs⟩ := List.forall_mem_cons.1 hbs
    have htree : Tree.ofTokens (run .between (b :: bs)) = (.number x, false) := h
    rw [run_cons, step] at htree
    rw [List.cons_append, run_cons, step]
    rcases start_ofLiteral hb with ⟨part, n, hstart⟩ | hstart
    · rw [hstart, List.nil_append] at htree
      rw [hstart, List.nil_append]
      rcases run_literal hbs with ⟨y, hy, hmore⟩ | ⟨ts, hts⟩ | ⟨y, t, ts, hts⟩
      · rw [hy] at htree
        obtain rfl : y = x := by
          cases htree
          rfl
        exact hmore rest hrest
      · rw [hts, Tree.ofTokens_cons rfl] at htree
        cases htree
      · rw [hts, Tree.ofTokens_cons rfl] at htree
        cases htree
    · rw [hstart, fail, List.singleton_append, Tree.ofTokens_cons rfl] at htree
      cases htree

/-- A double is written as a text that gives the double when it is read. -/
def SurvivesText (x : Binary64) : Prop :=
  Codec.opaqueValue.read (encode (Value.number (.float x)).text) = .ok (.number (.float x))

/-- Such a double is read as itself wherever it stands in a document. -/
theorem readsBack_float {x : Binary64} (h : SurvivesText x) : (Number.float x).ReadsBack := by
  intro rest hrest
  obtain ⟨t, ht, hdecode⟩ := Codec.decode_of_read h
  obtain rfl : t = .number (some (.float x)) := by
    rcases Codec.eq_ofValue_of_decode hdecode with h | ⟨_, h⟩ | ⟨_, h⟩
    · exact h
    · cases h
    · cases h
  have hchars : (Number.float x).chars = ['n', 'u', 'l', 'l'] ∨
      ∃ negative m q, (Number.float x).chars = Binary64.finiteText negative m q := by
    rw [Number.chars]
    split
    · exact .inr ⟨_, _, _, rfl⟩
    · exact .inl rfl
  rw [Value.text, Text.Utf8.encode_ofList, Value.chars] at ht
  rcases hchars with hnull | ⟨negative, m, q, hfinite⟩
  · -- What is no number is written as `null`, which is no number when it is read.
    rw [hnull] at ht
    cases ht
  · rw [hfinite] at ht ⊢
    exact Scan.run_of_ofBytes (fun b hb => ofLiteral_of_mem_finiteText hb) ht hrest

/-- It survives if its text is one token. -/
theorem survivesText_iff {x : Binary64} :
    SurvivesText x ↔
      tokens (encode (Value.number (.float x)).text) = [.number (some (.float x))] := by
  refine ⟨fun h => ?_, fun h => ?_⟩
  · have hnothing : Delimited [] := fun b hb => nomatch hb
    have hrun := readsBack_float h [] hnothing
    rw [List.append_nil] at hrun
    rw [Value.text, Text.Utf8.encode_ofList]
    exact hrun
  · unfold SurvivesText Codec.read Tree.ofBytes
    rw [h]
    rfl

instance : DecidablePred SurvivesText := fun _ => decidable_of_iff _ survivesText_iff.symm

end PipelineConsole.Json
