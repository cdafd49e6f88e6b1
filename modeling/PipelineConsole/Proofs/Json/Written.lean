import Mathlib.Algebra.Group.Int.Defs
import PipelineConsole.Json.Printer
import PipelineConsole.Json.Token
import PipelineConsole.Proofs.Text.Utf8

/-!
# The tokens of written values

The machine that cuts a text into tokens finds in a written value the tokens that were written. A
number is told from what follows it by a comma or a bracket, or by the end of the text; all other
tokens end by themselves.

## Main definitions

* `Value.tokens` — the tokens that a value is written as
* `Delimited` — what may follow a number
* `Number.ReadsBack`, `Value.Legible` — numbers that are read as themselves, and values of such

## Main results

* `run_stringChars` — a written string is one token, whatever its characters
* `readsBack_int` — integers of 64 bits are read as themselves
* `run_chars`, `tokens_text` — the tokens of a written value
-/

namespace PipelineConsole.Json

open Text.Utf8 (Bytes encodeChars encode)

/-! ### Strings -/

namespace Scan

section Strings

variable {pieces : List Piece} {rest : Bytes}

theorem run_cons (s : Scan) (b : UInt8) (rest : Bytes) :
    run s (b :: rest) = (step s b).2 ++ run (step s b).1 rest := rfl

/-- Octets that are neither quotes nor backslashes nor controls stand for themselves. -/
theorem run_octets {bs : Bytes} (h : ∀ b ∈ bs, b ≠ 0x22 ∧ b ≠ 0x5C ∧ ¬ b < 0x20) :
    run (.inString pieces) (bs ++ rest) =
      run (.inString ((bs.map Piece.octet).reverse ++ pieces)) rest := by
  induction bs generalizing pieces with
  | nil => rfl
  | cons b bs ih =>
    obtain ⟨⟨hquote, hslash, hcontrol⟩, hbs⟩ := List.forall_mem_cons.1 h
    have hstep : step (.inString pieces) b = (.inString (.octet b :: pieces), []) := by
      rw [step, if_neg hquote, if_neg hslash, if_neg hcontrol]
    rw [List.cons_append, run_cons, hstep, List.nil_append, ih hbs, List.map_cons,
      List.reverse_cons, List.append_assoc]
    rfl

/-- The value of a written hexadecimal digit. -/
theorem hexValue?_digitChar :
    ∀ d < 16, hexValue? (UInt8.ofNat (Nat.digitChar d).toNat) = some d := by
  decide

end Strings

end Scan

/-- The pieces that a character of a written string is read as. -/
def charPieces (c : Char) : List Piece :=
  if c.toNat < 0x20 ∧ c ∉ ['\x08', '\t', '\n', '\x0c', '\r'] then [.unit c.toNat]
  else (String.utf8EncodeChar c).map .octet

namespace Scan

section Strings

variable {pieces : List Piece} {rest : Bytes}

/-- A control character is written as four hexadecimal digits, of which the first two are zeros. -/
theorem run_unit {n : Nat} (h : n < 0x20) :
    run (.inString pieces)
        (encodeChars ['\\', 'u', '0', '0', Nat.digitChar (n / 16), Nat.digitChar (n % 16)] ++
          rest) =
      run (.inString (.unit n :: pieces)) rest := by
  have hascii : ∀ d < 16, (Nat.digitChar d).toNat < 0x80 := by decide
  have hhigh := hexValue?_digitChar (n / 16) (by omega)
  have hlow := hexValue?_digitChar (n % 16) (by omega)
  have hbytes : encodeChars ['\\', 'u', '0', '0', Nat.digitChar (n / 16), Nat.digitChar (n % 16)] =
      [0x5C, 0x75, 0x30, 0x30, UInt8.ofNat (Nat.digitChar (n / 16)).toNat,
        UInt8.ofNat (Nat.digitChar (n % 16)).toNat] := by
    simp only [Text.Utf8.encodeChars_cons, Text.Utf8.encodeChars_nil,
      Text.Utf8.utf8EncodeChar_ascii (hascii (n / 16) (by omega)),
      Text.Utf8.utf8EncodeChar_ascii (hascii (n % 16) (by omega))]
    rfl
  have hstart : run (.inString pieces) (0x5C :: 0x75 :: 0x30 :: 0x30 ::
      UInt8.ofNat (Nat.digitChar (n / 16)).toNat :: UInt8.ofNat (Nat.digitChar (n % 16)).toNat ::
      rest) = run (.inUnit pieces 0 1) (UInt8.ofNat (Nat.digitChar (n / 16)).toNat ::
        UInt8.ofNat (Nat.digitChar (n % 16)).toNat :: rest) := rfl
  have hvalue : (0 * 16 + n / 16) * 16 + n % 16 = n := by omega
  rw [hbytes]
  simp only [List.cons_append, List.nil_append]
  rw [hstart, run_cons, step, hhigh, run_cons]
  dsimp only
  rw [step, hlow]
  dsimp only
  rw [hvalue]
  rfl

/-- The octets of a character that is written as it is neither end a string nor start an escape. -/
theorem plain_octets {c : Char} (hquote : c ≠ '"') (hslash : c ≠ '\\') (hplain : ¬ c.toNat < 0x20) :
    ∀ b ∈ String.utf8EncodeChar c, b ≠ 0x22 ∧ b ≠ 0x5C ∧ ¬ b < 0x20 := by
  intro b hb
  have hne : ∀ d : Char, c ≠ d → d.toNat < 0x80 → b.toNat ≠ d.toNat := by
    intro d hcd hd heq
    rcases Text.Utf8.mem_utf8EncodeChar hb with ⟨-, hbc⟩ | ⟨-, hle⟩
    · exact hcd (Char.toNat_inj.1 (hbc.symm.trans heq))
    · omega
  refine ⟨?_, ?_, ?_⟩
  · rintro rfl
    exact hne '"' hquote (by decide) rfl
  · rintro rfl
    exact hne '\\' hslash (by decide) rfl
  · intro hlt
    have hlt : b.toNat < 0x20 := UInt8.lt_iff_toNat_lt.1 hlt
    rcases Text.Utf8.mem_utf8EncodeChar hb with ⟨-, hbc⟩ | ⟨-, hle⟩
    · omega
    · omega

theorem run_escapedChar (c : Char) :
    run (.inString pieces) (encodeChars (escapedChar c) ++ rest) =
      run (.inString ((charPieces c).reverse ++ pieces)) rest := by
  unfold escapedChar
  -- The characters with an escape of their own come first.
  split
  · next h => subst h; rfl
  split
  · next h => subst h; rfl
  split
  · next h => subst h; rfl
  split
  · next h => subst h; rfl
  split
  · next h => subst h; rfl
  split
  · next h => subst h; rfl
  split
  · next h => subst h; rfl
  split
  · next h8 h9 h10 h12 h13 hcontrol =>
    rw [charPieces, if_pos ⟨hcontrol, by simp [h8, h9, h10, h12, h13]⟩, run_unit hcontrol]
    rfl
  · next hquote hslash _ _ _ _ _ hplain =>
    have hbytes : encodeChars [c] = String.utf8EncodeChar c := by
      rw [Text.Utf8.encodeChars_cons, Text.Utf8.encodeChars_nil, List.append_nil]
    rw [charPieces, if_neg (fun h => hplain h.1), hbytes,
      run_octets (plain_octets hquote hslash hplain)]

theorem run_escapedChars (cs : List Char) :
    run (.inString pieces) (encodeChars (cs.flatMap escapedChar) ++ rest) =
      run (.inString ((cs.flatMap charPieces).reverse ++ pieces)) rest := by
  induction cs generalizing pieces with
  | nil => rfl
  | cons c cs ih =>
    rw [List.flatMap_cons, Text.Utf8.encodeChars_append, List.append_assoc, run_escapedChar, ih,
      List.flatMap_cons, List.reverse_append, List.append_assoc]

end Strings

end Scan

/-- A unit below the surrogates stands for its character, whatever follows it. -/
theorem pieceOctets?_unit {u : Nat} (h : u < 0xD800) (rest : List Piece) :
    pieceOctets? (.unit u :: rest) =
      (pieceOctets? rest).map (String.utf8EncodeChar (.ofNat u) ++ ·) := by
  -- Only a surrogate looks at the unit behind it.
  have halone : ¬ (0xD800 ≤ u ∧ u < 0xE000) := by omega
  cases rest with
  | nil => simp [pieceOctets?, halone]
  | cons p rest =>
    cases p with
    | octet b => simp [pieceOctets?, halone]
    | unit v => rw [pieceOctets?, if_neg (by omega), if_neg (by omega)]

theorem pieceOctets?_octets (bs : Bytes) (rest : List Piece) :
    pieceOctets? (bs.map .octet ++ rest) = (pieceOctets? rest).map (bs ++ ·) := by
  induction bs with
  | nil => simp
  | cons b bs ih =>
    rw [List.map_cons, List.cons_append, pieceOctets?, ih, Option.map_map]
    rfl

theorem pieceOctets?_charPieces (c : Char) (rest : List Piece) :
    pieceOctets? (charPieces c ++ rest) =
      (pieceOctets? rest).map (String.utf8EncodeChar c ++ ·) := by
  unfold charPieces
  split
  · next h =>
    rw [List.singleton_append, pieceOctets?_unit (by omega), Char.ofNat_toNat]
  · exact pieceOctets?_octets ..

/-- The pieces of a written string spell it. -/
theorem pieceText?_flatMap (s : String) : pieceText? (s.toList.flatMap charPieces) = some s := by
  have hoctets (cs : List Char) : pieceOctets? (cs.flatMap charPieces) = some (encodeChars cs) := by
    induction cs with
    | nil => rfl
    | cons c cs ih => rw [List.flatMap_cons, pieceOctets?_charPieces, ih]; rfl
  rw [pieceText?, hoctets]
  exact Text.Utf8.decode?_encode s

namespace Scan

/-- A written string is one token. -/
theorem run_stringChars (s : String) (rest : Bytes) :
    run .between (encodeChars (stringChars s) ++ rest) =
      .string (some s) :: run .between rest := by
  have hopen : run .between (encodeChars (stringChars s) ++ rest) =
      run (.inString []) (encodeChars (s.toList.flatMap escapedChar) ++ (0x22 :: rest)) := by
    rw [stringChars, List.cons_append, Text.Utf8.encodeChars_cons, Text.Utf8.encodeChars_append,
      List.append_assoc, List.append_assoc]
    rfl
  have hclose (pieces : List Piece) : run (.inString pieces) (0x22 :: rest) =
      .string (pieceText? pieces.reverse) :: run .between rest := rfl
  rw [hopen, run_escapedChars, hclose, List.append_nil, List.reverse_reverse, pieceText?_flatMap]

end Scan

/-! ### Numbers -/

/-- What may follow a number: a comma, a closing bracket, or nothing. -/
def Delimited (rest : Bytes) : Prop := ∀ b ∈ rest.head?, b = 0x2C ∨ b = 0x5D ∨ b = 0x7D

/-- A written number is read as itself. -/
def Number.ReadsBack (n : Number) : Prop :=
  ∀ rest, Delimited rest →
    Scan.run .between (encodeChars n.chars ++ rest) = .number (some n) :: Scan.run .between rest

namespace Scan

/-- A number ends before what may follow it. -/
theorem run_inNumeral {part : NumeralPart} {n : Numeral} {rest : Bytes}
    (hpart : part.isComplete = true) (hrest : Delimited rest) :
    run (.inNumeral part n) rest = .number n.inOrder.number? :: run .between rest := by
  cases rest with
  | nil =>
    rw [run, finish, if_pos hpart]
    rfl
  | cons b rest =>
    have hb : b = 0x2C ∨ b = 0x5D ∨ b = 0x7D := hrest b rfl
    have hextend : extend part n b = none := by
      rcases hb with rfl | rfl | rfl <;> cases part <;> rfl
    have hdigit : isDigit b = false := by
      rcases hb with rfl | rfl | rfl <;> rfl
    rw [run_cons, step, numeral, hextend]
    dsimp only
    rw [if_pos (by simp [hpart, hdigit]), run_cons]
    rfl

/-- The values of the digits of a number. -/
def digits (n : Nat) : List Nat := (Nat.toDigits 10 n).map fun c => c.toNat - 0x30

/-- A digit other than zero starts a number. -/
theorem start_digitChar : ∀ d, 0 < d → d < 10 →
    step .between (UInt8.ofNat (Nat.digitChar d).toNat) =
      (.inNumeral .whole ⟨false, [d], none, none⟩, [])
  | 0, h, _ => absurd h (by decide)
  | 1, _, _ | 2, _, _ | 3, _, _ | 4, _, _ | 5, _, _ | 6, _, _ | 7, _, _ | 8, _, _ | 9, _, _ => rfl
  | d + 10, _, h => absurd h (by omega)

theorem sign_digitChar : ∀ d, 0 < d → d < 10 →
    step (.inNumeral .sign ⟨true, [], none, none⟩) (UInt8.ofNat (Nat.digitChar d).toNat) =
      (.inNumeral .whole ⟨true, [d], none, none⟩, [])
  | 0, h, _ => absurd h (by decide)
  | 1, _, _ | 2, _, _ | 3, _, _ | 4, _, _ | 5, _, _ | 6, _, _ | 7, _, _ | 8, _, _ | 9, _, _ => rfl
  | d + 10, _, h => absurd h (by omega)

/-- The digits of a number that is not zero are read one after the other, once the first one, which
is not zero, has been. -/
theorem run_toDigits {s : Scan} {negative : Bool}
    (hs : ∀ d, 0 < d → d < 10 →
      step s (UInt8.ofNat (Nat.digitChar d).toNat) =
        (.inNumeral .whole ⟨negative, [d], none, none⟩, []))
    {n : Nat} (hn : 0 < n) (rest : Bytes) :
    run s (encodeChars (Nat.toDigits 10 n) ++ rest) =
      run (.inNumeral .whole ⟨negative, (digits n).reverse, none, none⟩) rest := by
  have hascii : ∀ d < 10, (Nat.digitChar d).toNat < 0x80 := by decide
  have hvalue : ∀ d < 10, (Nat.digitChar d).toNat - 0x30 = d := by decide
  have hwhole : ∀ d < 10, isDigit (UInt8.ofNat (Nat.digitChar d).toNat) = true ∧
      (UInt8.ofNat (Nat.digitChar d).toNat).toNat - 0x30 = d := by decide
  -- The last digit is split off, so that the one that is read first comes last in the induction.
  induction n using Nat.base_induction 10 (by decide) generalizing rest with
  | single d hd =>
    have hdigits : digits d = [d] := by
      rw [digits, Nat.toDigits_of_lt_base hd, List.map_singleton, hvalue d hd]
    rw [Nat.toDigits_of_lt_base hd, Text.Utf8.encodeChars_cons, Text.Utf8.encodeChars_nil,
      Text.Utf8.utf8EncodeChar_ascii (hascii d hd), List.append_nil, List.singleton_append,
      run_cons, hs d hn hd, hdigits]
    rfl
  | digit m d hd hm ih =>
    have hdigits : digits (10 * m + d) = digits m ++ [d] := by
      rw [digits, ← Nat.toDigits_append_toDigits (by decide) hm hd, List.map_append,
        Nat.toDigits_of_lt_base hd, List.map_singleton, hvalue d hd]
      rfl
    have hstep (ds : List Nat) : step (.inNumeral .whole ⟨negative, ds, none, none⟩)
        (UInt8.ofNat (Nat.digitChar d).toNat) =
          (.inNumeral .whole ⟨negative, d :: ds, none, none⟩, []) := by
      rw [step, numeral, extend]
      dsimp only
      rw [if_pos (hwhole d hd).1, (hwhole d hd).2]
    rw [← Nat.toDigits_append_toDigits (by decide) hm hd, Nat.toDigits_of_lt_base hd,
      Text.Utf8.encodeChars_append, List.append_assoc, ih hm, hdigits, Text.Utf8.encodeChars_cons,
      Text.Utf8.encodeChars_nil, Text.Utf8.utf8EncodeChar_ascii (hascii d hd), List.append_nil,
      List.singleton_append, run_cons, hstep, List.reverse_append]
    rfl

end Scan

namespace Numeral

/-- Digits whose number fits are all gathered. -/
theorem gather_of_le {bound : Nat} (ds : List Nat) (s : Nat)
    (h : ds.foldl (fun n d => n * 10 + d) s ≤ bound) :
    gather bound s ds = (ds.foldl (fun n d => n * 10 + d) s, []) := by
  induction ds generalizing s with
  | nil => rfl
  | cons d ds ih =>
    have hgrows : ∀ (ds : List Nat) (s : Nat), s ≤ ds.foldl (fun n d => n * 10 + d) s := by
      intro ds
      induction ds with
      | nil => exact fun s => Nat.le_refl s
      | cons d ds ih => exact fun s => Nat.le_trans (by omega) (ih (s * 10 + d))
    rw [List.foldl_cons] at h ⊢
    rw [gather, if_pos (Nat.le_trans (hgrows ds _) h), ih _ h]

theorem foldl_digits (n : Nat) : (Scan.digits n).foldl (fun n d => n * 10 + d) 0 = n := by
  have hvalue := Nat.ofDigitChars_ten_toDigits (n := n)
  rw [Nat.ofDigitChars_eq_foldl] at hvalue
  rw [Scan.digits, List.foldl_map]
  refine Eq.trans ?_ hvalue
  congr 1
  funext s c
  rw [Nat.mul_comm]
  rfl

/-- A literal of digits only is an integer, if it fits. -/
theorem number?_digits {negative : Bool} {n : Nat} (h : n ≤ maxSignificand) :
    number? ⟨negative, Scan.digits n, none, none⟩ =
      if !negative then some (.int n)
      else if n = 0 || Nat.pow 2 63 < n then float? true n 0
      else some (.int (-(n : Int))) := by
  have hgather : gather maxSignificand 0 (Scan.digits n) = (n, []) := by
    rw [gather_of_le _ _ (by rw [foldl_digits]; exact h), foldl_digits]
  unfold number?
  dsimp only
  rw [hgather]
  rfl

end Numeral

/-- Integers of 64 bits, signed or not, are read as themselves. -/
theorem readsBack_int {n : Int} (hlow : -2 ^ 63 ≤ n) (hhigh : n < 2 ^ 64) :
    (Number.int n).ReadsBack := by
  intro rest hrest
  have hmax : Numeral.maxSignificand = 18446744073709551615 := rfl
  have hinOrder (negative : Bool) (ds : List Nat) :
      Numeral.inOrder ⟨negative, ds.reverse, none, none⟩ = ⟨negative, ds, none, none⟩ := by
    simp [Numeral.inOrder]
  rw [Number.chars, intChars, Text.Utf8.encodeChars_append, List.append_assoc]
  split
  · next hneg =>
    -- Behind a sign, all but the zero and the numbers that are too far down are integers.
    have hsign (more : Bytes) : Scan.run .between (encodeChars ['-'] ++ more) =
        Scan.run (.inNumeral .sign ⟨true, [], none, none⟩) more := rfl
    have hpow : Nat.pow 2 63 = 9223372036854775808 := by decide
    have hfits : (decide (n.natAbs = 0) || decide (Nat.pow 2 63 < n.natAbs)) = false := by
      rw [hpow]
      simp only [Bool.or_eq_false_iff, decide_eq_false_iff_not]
      omega
    have hnumber : Numeral.number? ⟨true, Scan.digits n.natAbs, none, none⟩ = some (.int n) := by
      rw [Numeral.number?_digits (by omega), hfits]
      have hback : -((n.natAbs : Nat) : Int) = n := by omega
      rw [hback]
      rfl
    rw [hsign, Scan.run_toDigits Scan.sign_digitChar (by omega), Scan.run_inNumeral rfl hrest,
      hinOrder, hnumber]
  · next hneg =>
    rw [Text.Utf8.encodeChars_nil, List.nil_append]
    by_cases hzero : n = 0
    · subst hzero
      have hdigit : Scan.run .between (encodeChars (Nat.toDigits 10 (0 : Int).natAbs) ++ rest) =
          Scan.run (.inNumeral .zero ⟨false, [0], none, none⟩) rest := rfl
      rw [hdigit, Scan.run_inNumeral rfl hrest]
      rfl
    · have hnumber : Numeral.number? ⟨false, Scan.digits n.natAbs, none, none⟩ = some (.int n) := by
        rw [Numeral.number?_digits (by omega)]
        have hback : ((n.natAbs : Nat) : Int) = n := by omega
        rw [hback]
        rfl
      rw [Scan.run_toDigits Scan.start_digitChar (by omega), Scan.run_inNumeral rfl hrest, hinOrder,
        hnumber]

/-! ### Values -/

mutual

/-- The tokens that a value is written as. -/
def Value.tokens : Value → List Token
  | .null => [.null]
  | .bool b => [.bool b]
  | .number n => [.number (some n)]
  | .string s => [.string (some s)]
  | .array items => .openArray :: itemTokens items ++ [.closeArray]
  | .object members => .openObject :: memberTokens members ++ [.closeObject]

/-- The tokens that the items of an array are written as. -/
def itemTokens : List Value → List Token
  | [] => []
  | [v] => v.tokens
  | v :: rest => v.tokens ++ .comma :: itemTokens rest

/-- The tokens that the members of an object are written as. -/
def memberTokens : List (String × Value) → List Token
  | [] => []
  | [(name, v)] => .string (some name) :: .colon :: v.tokens
  | (name, v) :: rest =>
    .string (some name) :: .colon :: v.tokens ++ .comma :: memberTokens rest

end

theorem itemChars_cons (v w : Value) (items : List Value) :
    itemChars (v :: w :: items) = v.chars ++ ',' :: itemChars (w :: items) := rfl

theorem itemTokens_cons (v w : Value) (items : List Value) :
    itemTokens (v :: w :: items) = v.tokens ++ .comma :: itemTokens (w :: items) := rfl

theorem memberChars_cons (name : String) (v : Value) (m : String × Value)
    (members : List (String × Value)) :
    memberChars ((name, v) :: m :: members) =
      stringChars name ++ ':' :: v.chars ++ ',' :: memberChars (m :: members) := rfl

theorem memberTokens_cons (name : String) (v : Value) (m : String × Value)
    (members : List (String × Value)) :
    memberTokens ((name, v) :: m :: members) =
      .string (some name) :: .colon :: v.tokens ++ .comma :: memberTokens (m :: members) := rfl

mutual

/-- All numbers of a value are read as themselves. -/
def Value.Legible : Value → Prop
  | .number n => n.ReadsBack
  | .array items => ItemsLegible items
  | .object members => MembersLegible members
  | .null | .bool _ | .string _ => True

/-- All numbers of the items of an array are read as themselves. -/
def ItemsLegible : List Value → Prop
  | [] => True
  | v :: rest => v.Legible ∧ ItemsLegible rest

/-- All numbers of the members of an object are read as themselves. -/
def MembersLegible : List (String × Value) → Prop
  | [] => True
  | (_, v) :: rest => v.Legible ∧ MembersLegible rest

end

namespace Scan

/-- What a bracket or a comma begins delimits a number. -/
theorem delimited_encodeChars {c : Char} (h : c = ',' ∨ c = ']' ∨ c = '\x7d') (cs : List Char)
    (rest : Bytes) : Delimited (encodeChars (c :: cs) ++ rest) := by
  rintro b hb
  rcases h with rfl | rfl | rfl
  · exact .inl (Option.some.inj hb).symm
  · exact .inr (.inl (Option.some.inj hb).symm)
  · exact .inr (.inr (Option.some.inj hb).symm)

section Marks

variable (cs : List Char) (rest : Bytes)

theorem run_comma : run .between (encodeChars (',' :: cs) ++ rest) =
    .comma :: run .between (encodeChars cs ++ rest) := rfl

theorem run_colon : run .between (encodeChars (':' :: cs) ++ rest) =
    .colon :: run .between (encodeChars cs ++ rest) := rfl

theorem run_openArray : run .between (encodeChars ('[' :: cs) ++ rest) =
    .openArray :: run .between (encodeChars cs ++ rest) := rfl

theorem run_closeArray : run .between (encodeChars [']'] ++ rest) =
    .closeArray :: run .between rest := rfl

theorem run_openObject : run .between (encodeChars ('\x7b' :: cs) ++ rest) =
    .openObject :: run .between (encodeChars cs ++ rest) := rfl

theorem run_closeObject : run .between (encodeChars ['\x7d'] ++ rest) =
    .closeObject :: run .between rest := rfl

end Marks

mutual

/-- A written value is cut into its tokens. -/
theorem run_chars : ∀ (v : Value) (rest : Bytes), v.Legible → Delimited rest →
    run .between (encodeChars v.chars ++ rest) = v.tokens ++ run .between rest
  | .null, _, _, _ => rfl
  | .bool true, _, _, _ => rfl
  | .bool false, _, _, _ => rfl
  | .number _, rest, h, hrest => h rest hrest
  | .string s, rest, _, _ => run_stringChars s rest
  | .array items, rest, h, _ => by
    have hclose := delimited_encodeChars (.inr (.inl rfl)) [] rest
    rw [Value.chars, List.cons_append, run_openArray, Text.Utf8.encodeChars_append,
      List.append_assoc, run_itemChars items _ h hclose, run_closeArray, Value.tokens]
    simp
  | .object members, rest, h, _ => by
    have hclose := delimited_encodeChars (.inr (.inr rfl)) [] rest
    rw [Value.chars, List.cons_append, run_openObject, Text.Utf8.encodeChars_append,
      List.append_assoc, run_memberChars members _ h hclose, run_closeObject, Value.tokens]
    simp

/-- So are written items. -/
theorem run_itemChars : ∀ (items : List Value) (rest : Bytes), ItemsLegible items → Delimited rest →
    run .between (encodeChars (itemChars items) ++ rest) = itemTokens items ++ run .between rest
  | [], _, _, _ => rfl
  | [v], rest, h, hrest => run_chars v rest h.1 hrest
  | v :: w :: items, rest, h, hrest => by
    have hcomma := delimited_encodeChars (.inl rfl) (itemChars (w :: items)) rest
    rw [itemChars_cons, Text.Utf8.encodeChars_append, List.append_assoc, run_chars v _ h.1 hcomma,
      run_comma, run_itemChars (w :: items) rest h.2 hrest, itemTokens_cons, List.append_assoc]
    rfl

/-- So are written members. -/
theorem run_memberChars : ∀ (members : List (String × Value)) (rest : Bytes),
    MembersLegible members → Delimited rest →
    run .between (encodeChars (memberChars members) ++ rest) =
      memberTokens members ++ run .between rest
  | [], _, _, _ => rfl
  | [(name, v)], rest, h, hrest => by
    rw [memberChars, Text.Utf8.encodeChars_append, List.append_assoc, run_stringChars, run_colon,
      run_chars v rest h.1 hrest, memberTokens]
    rfl
  | (name, v) :: m :: members, rest, h, hrest => by
    have hcomma := delimited_encodeChars (.inl rfl) (memberChars (m :: members)) rest
    rw [memberChars_cons, List.append_assoc, List.cons_append, Text.Utf8.encodeChars_append,
      List.append_assoc, run_stringChars, run_colon, Text.Utf8.encodeChars_append,
      List.append_assoc, run_chars v _ h.1 hcomma, run_comma,
      run_memberChars (m :: members) rest h.2 hrest, memberTokens_cons]
    simp

end

end Scan

/-- The tokens of the text of a value. -/
theorem tokens_text {v : Value} (h : v.Legible) : tokens (encode v.text) = v.tokens := by
  have hend : Delimited [] := fun b hb => absurd hb (by simp)
  have hrun := Scan.run_chars v [] h hend
  rw [List.append_nil] at hrun
  rw [tokens, Value.text, Text.Utf8.encode_ofList, hrun]
  exact List.append_nil _

end PipelineConsole.Json
