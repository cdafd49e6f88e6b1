import PipelineConsole.Proofs.Json.Kept

/-!
# The numbers of a text

Every number in the tree of a text comes from a literal of the text, and no literal stands for an
integer that does not fit 64 bits. Reading a tree as an opaque document brings no other numbers in.

## Main definitions

* `Value.numbers`, `Tree.numbers` — the numbers of a document and of a tree
* `Number.Fits`, `Tree.Fits` — integers fit 64 bits

## Main results

* `Tree.fits_ofBytes` — the numbers of the tree of a text fit
* `mem_numbers_of_value?` — an opaque document has the numbers of its tree
* `Value.legible_of_numbers` — a document is legible if its numbers are read as themselves
-/

namespace PipelineConsole.Json

open Text.Utf8 (Bytes)

/-! ### Documents and trees -/

mutual

/-- The numbers of a document. -/
def Value.numbers : Value → List Number
  | .number n => [n]
  | .array items => itemNumbers items
  | .object members => memberNumbers members
  | .null | .bool _ | .string _ => []

/-- The numbers of the items of an array. -/
def itemNumbers : List Value → List Number
  | [] => []
  | v :: rest => v.numbers ++ itemNumbers rest

/-- The numbers of the members of an object. -/
def memberNumbers : List (String × Value) → List Number
  | [] => []
  | (_, v) :: rest => v.numbers ++ memberNumbers rest

end

mutual

/-- The numbers of a tree that can be read. -/
def Tree.numbers : Tree → List Number
  | .number n => n.toList
  | .array items _ => itemTreeNumbers items
  | .object members _ => memberTreeNumbers members
  | .fault | .null | .bool _ | .string _ => []

/-- The numbers of the items of an array. -/
def itemTreeNumbers : List Tree → List Number
  | [] => []
  | t :: rest => t.numbers ++ itemTreeNumbers rest

/-- The numbers of the members of an object. -/
def memberTreeNumbers : List (Option String × Tree) → List Number
  | [] => []
  | (_, t) :: rest => t.numbers ++ memberTreeNumbers rest

end

section Members

variable {n : Number}

theorem mem_memberNumbers {ms : List (String × Value)} :
    n ∈ memberNumbers ms ↔ ∃ m ∈ ms, n ∈ m.2.numbers := by
  induction ms with
  | nil => simp [memberNumbers]
  | cons m ms ih =>
    simp only [memberNumbers, List.mem_append, ih, List.mem_cons, exists_eq_or_imp]

theorem mem_itemTreeNumbers {ts : List Tree} :
    n ∈ itemTreeNumbers ts ↔ ∃ t ∈ ts, n ∈ t.numbers := by
  induction ts with
  | nil => simp [itemTreeNumbers]
  | cons t ts ih => simp [itemTreeNumbers, ih]

theorem mem_memberTreeNumbers {ms : List (Option String × Tree)} :
    n ∈ memberTreeNumbers ms ↔ ∃ m ∈ ms, n ∈ m.2.numbers := by
  induction ms with
  | nil => simp [memberTreeNumbers]
  | cons m ms ih =>
    simp only [memberTreeNumbers, List.mem_append, ih, List.mem_cons, exists_eq_or_imp]

end Members

mutual

/-- A document is legible if its numbers are read as themselves. -/
theorem Value.legible_of_numbers : ∀ v : Value, (∀ n ∈ v.numbers, n.ReadsBack) → v.Legible
  | .null, _ | .bool _, _ | .string _, _ => trivial
  | .number n, h => h n (List.mem_singleton_self n)
  | .array items, h => itemsLegible_of_numbers items h
  | .object members, h => membersLegible_of_numbers members h

theorem itemsLegible_of_numbers :
    ∀ vs : List Value, (∀ n ∈ itemNumbers vs, n.ReadsBack) → ItemsLegible vs
  | [], _ => trivial
  | v :: rest, h =>
    ⟨v.legible_of_numbers fun n hn => h n (List.mem_append_left _ hn),
      itemsLegible_of_numbers rest fun n hn => h n (List.mem_append_right _ hn)⟩

theorem membersLegible_of_numbers :
    ∀ ms : List (String × Value), (∀ n ∈ memberNumbers ms, n.ReadsBack) → MembersLegible ms
  | [], _ => trivial
  | (_, v) :: rest, h =>
    ⟨v.legible_of_numbers fun n hn => h n (List.mem_append_left _ hn),
      membersLegible_of_numbers rest fun n hn => h n (List.mem_append_right _ hn)⟩

end

/-- Members keep their values where they are sorted. -/
theorem Value.mem_numbers_ofMembers {n : Number} {ms : List (String × Value)}
    (h : n ∈ (Value.ofMembers ms).numbers) : n ∈ memberNumbers ms := by
  have hnone : SortedMembers [] := List.Pairwise.nil
  have hsame := (foldl_insertMember (P := (· ∈ ms)) hnone (fun _ hm => nomatch hm)
    fun _ hm => hm).2
  obtain ⟨m, hm, hn⟩ := mem_memberNumbers.1 h
  exact mem_memberNumbers.2 ⟨m, hsame m hm, hn⟩

mutual

/-- An opaque document has no other numbers than its tree. -/
theorem mem_numbers_of_value? {source : Source} {n : Number} : ∀ {t : Tree} {v : Value},
    t.value? source = some v → n ∈ v.numbers → n ∈ t.numbers
  | .fault, _, h, _ => nomatch h
  | .null, _, h, hn | .bool _, _, h, hn => by
    cases h
    cases hn
  | .string _, _, h, hn => by
    obtain ⟨_, -, rfl⟩ := Option.map_eq_some_iff.1 h
    cases hn
  | .number _, _, h, hn => by
    obtain ⟨m, rfl, rfl⟩ := Option.map_eq_some_iff.1 h
    exact hn
  | .array items _, _, h, hn => by
    simp only [Tree.value?] at h
    split at h
    · cases h
    · split at h
      · obtain ⟨vs, hvs, rfl⟩ := Option.map_eq_some_iff.1 h
        exact mem_itemNumbers_of_itemValues? hvs hn
      · cases h
  | .object members _, _, h, hn => by
    simp only [Tree.value?] at h
    split at h
    · cases h
    · split at h
      · obtain ⟨ms, hms, rfl⟩ := Option.map_eq_some_iff.1 h
        exact mem_memberNumbers_of_memberValues? hms (Value.mem_numbers_ofMembers hn)
      · cases h

theorem mem_itemNumbers_of_itemValues? {source : Source} {n : Number} :
    ∀ {ts : List Tree} {vs : List Value},
      itemValues? source ts = some vs → n ∈ itemNumbers vs → n ∈ itemTreeNumbers ts
  | [], _, h, hn => by
    obtain rfl := Option.some.inj h
    cases hn
  | t :: ts, _, h, hn => by
    simp only [itemValues?, Option.bind_eq_bind, Option.bind_eq_some_iff] at h
    obtain ⟨v, hv, rest, hrest, heq⟩ := h
    obtain rfl := Option.some.inj heq
    rcases List.mem_append.1 hn with hn | hn
    · exact List.mem_append_left _ (mem_numbers_of_value? hv hn)
    · exact List.mem_append_right _ (mem_itemNumbers_of_itemValues? hrest hn)

theorem mem_memberNumbers_of_memberValues? {source : Source} {n : Number} :
    ∀ {ts : List (Option String × Tree)} {ms : List (String × Value)},
      memberValues? source ts = some ms → n ∈ memberNumbers ms → n ∈ memberTreeNumbers ts
  | [], _, h, hn => by
    obtain rfl := Option.some.inj h
    cases hn
  | (name, t) :: ts, _, h, hn => by
    simp only [memberValues?, Option.bind_eq_bind, Option.bind_eq_some_iff] at h
    obtain ⟨_, -, v, hv, rest, hrest, heq⟩ := h
    obtain rfl := Option.some.inj heq
    rcases List.mem_append.1 hn with hn | hn
    · exact List.mem_append_left _ (mem_numbers_of_value? hv hn)
    · exact List.mem_append_right _ (mem_memberNumbers_of_memberValues? hrest hn)

end

/-! ### Numbers that fit -/

/-- A number is a double, or an integer of 64 bits, signed or unsigned. -/
def Number.Fits : Number → Prop
  | .int n => -2 ^ 63 ≤ n ∧ n < 2 ^ 64
  | .float _ => True

/-- The number of a token, if it has one that can be read, fits. -/
def Token.Fits : Token → Prop
  | .number (some n) => n.Fits
  | _ => True

/-- The numbers of a tree fit. -/
def Tree.Fits (t : Tree) : Prop := ∀ n ∈ t.numbers, n.Fits

/-- The trees inside an array or object. -/
def Tree.children : Tree → List Tree
  | .array items _ => items
  | .object members _ => members.map Prod.snd
  | .fault | .null | .bool _ | .number _ | .string _ => []

/-- What is inside a tree fits with it. -/
theorem Tree.Fits.of_mem_children {t inner : Tree} (h : t.Fits) (hinner : inner ∈ t.children) :
    inner.Fits := by
  cases t with
  | array items ending => exact fun n hn => h n (mem_itemTreeNumbers.2 ⟨inner, hinner, hn⟩)
  | object members ending =>
    obtain ⟨m, hm, rfl⟩ := List.mem_map.1 hinner
    exact fun n hn => h n (mem_memberTreeNumbers.2 ⟨m, hm, hn⟩)
  | _ => cases hinner

theorem Tree.fits_array {items : List Tree} {ending : Ending} (h : ∀ t ∈ items, t.Fits) :
    (Tree.array items ending).Fits := by
  intro n hn
  obtain ⟨t, ht, hn⟩ := mem_itemTreeNumbers.1 hn
  exact h t ht n hn

theorem Tree.fits_object {members : List (Option String × Tree)} {ending : Ending}
    (h : ∀ m ∈ members, m.2.Fits) : (Tree.object members ending).Fits := by
  intro n hn
  obtain ⟨m, hm, hn⟩ := mem_memberTreeNumbers.1 hn
  exact h m hm n hn

theorem Tree.fits_fault : Tree.fault.Fits := fun _ hn => nomatch hn

namespace Numeral

/-- What is gathered stays within the bound. -/
theorem gather_le {bound s : Nat} {ds : List Nat} (h : s ≤ bound) :
    (gather bound s ds).1 ≤ bound := by
  induction ds generalizing s with
  | nil => exact h
  | cons d ds ih =>
    rw [gather]
    split
    · next hle => exact ih hle
    · exact h

theorem fits_float? {negative : Bool} {significand : Nat} {exponent : Int} {x : Number}
    (h : float? negative significand exponent = some x) : x.Fits := by
  obtain ⟨f, -, rfl⟩ := Option.map_eq_some_iff.1 h
  trivial

/-- A literal stands for a number that fits. -/
theorem fits_number? {n : Numeral} {x : Number} (h : n.number? = some x) : x.Fits := by
  have hmax : maxSignificand = 18446744073709551615 := rfl
  have hpow : Nat.pow 2 63 = 9223372036854775808 := by decide
  have hwhole : (gather maxSignificand 0 n.whole).1 ≤ maxSignificand := gather_le (Nat.zero_le _)
  unfold number? at h
  dsimp only at h
  split at h
  · split at h
    · exact fits_float? h
    · split at h
      all_goals
        split at h
        · cases h
        · obtain rfl := Option.some.inj h
          trivial
  · split at h
    · exact fits_float? h
    · next hplain =>
      -- All digits are in front of the point, and they have been gathered.
      have hfraction : n.fraction = none := by
        simp only [Bool.or_eq_true, not_or, Bool.not_eq_true, Option.isSome_eq_false_iff,
          Option.isNone_iff_eq_none] at hplain
        exact hplain.1
      rw [hfraction] at h
      dsimp only at h
      split at h
      · obtain rfl := Option.some.inj h
        exact ⟨by omega, by omega⟩
      · split at h
        · exact fits_float? h
        · next hlow =>
          obtain rfl := Option.some.inj h
          simp only [hpow, Bool.or_eq_true, decide_eq_true_eq, not_or] at hlow
          exact ⟨by omega, by omega⟩

theorem fits_token (n : Numeral) : (Token.number n.number?).Fits := by
  cases h : n.number? with
  | none => trivial
  | some x => exact fits_number? h

end Numeral

/-! ### Numbers of texts -/

namespace Scan

/-- The machine is not on its way to a number that does not fit. -/
def Fits : Scan → Prop
  | .word _ token => token.Fits
  | _ => True

theorem fits_fail : fail.1.Fits ∧ ∀ t ∈ fail.2, t.Fits :=
  ⟨trivial, fun _ ht => List.mem_singleton.1 ht ▸ trivial⟩

theorem fits_nothing {s : Scan} (hs : s.Fits) : s.Fits ∧ ∀ t ∈ ([] : List Token), t.Fits :=
  ⟨hs, fun _ ht => nomatch ht⟩

theorem fits_one {t : Token} (ht : t.Fits) : between.Fits ∧ ∀ u ∈ [t], u.Fits :=
  ⟨trivial, fun _ hu => List.mem_singleton.1 hu ▸ ht⟩

theorem fits_start (b : UInt8) : (start b).1.Fits ∧ ∀ t ∈ (start b).2, t.Fits := by
  unfold start
  split <;> try first | exact fits_nothing trivial | exact fits_one trivial
  split
  · exact fits_nothing trivial
  · exact fits_fail

theorem fits_escape (pieces : List Piece) (b : UInt8) :
    (escape pieces b).1.Fits ∧ ∀ t ∈ (escape pieces b).2, t.Fits := by
  unfold escape
  split <;> first | exact fits_nothing trivial | exact fits_fail

theorem fits_numeral (part : NumeralPart) (n : Numeral) (b : UInt8) :
    (numeral part n b).1.Fits ∧ ∀ t ∈ (numeral part n b).2, t.Fits := by
  unfold numeral
  split
  · exact fits_nothing trivial
  · split
    · refine ⟨(fits_start b).1, fun t ht => ?_⟩
      rcases List.mem_cons.1 ht with rfl | ht
      · exact Numeral.fits_token n.inOrder
      · exact (fits_start b).2 t ht
    · exact fits_fail

/-- Each octet leads to such a state again, and completes only tokens that fit. -/
theorem fits_step {s : Scan} (hs : s.Fits) (b : UInt8) :
    (step s b).1.Fits ∧ ∀ t ∈ (step s b).2, t.Fits := by
  cases s with
  | between => exact fits_start b
  | word rest token =>
    cases rest with
    | nil => exact fits_fail
    | cons w rest =>
      cases rest with
      | nil =>
        have hstep : step (.word [w] token) b = if b = w then (.between, [token]) else fail := rfl
        rw [hstep]
        split
        · exact fits_one hs
        · exact fits_fail
      | cons v rest =>
        have hstep : step (.word (w :: v :: rest) token) b =
            if b = w then (.word (v :: rest) token, []) else fail := rfl
        rw [hstep]
        split
        · exact fits_nothing hs
        · exact fits_fail
  | inString pieces =>
    rw [step]
    split
    · exact fits_one trivial
    · split
      · exact fits_nothing trivial
      · split
        · exact fits_fail
        · exact fits_nothing trivial
  | inEscape pieces => exact fits_escape pieces b
  | inUnit pieces value more =>
    rw [step]
    split
    · exact fits_fail
    · split <;> exact fits_nothing trivial
  | inNumeral part n => exact fits_numeral part n b
  | stopped => exact fits_nothing trivial

theorem fits_run {s : Scan} (hs : s.Fits) (bytes : Bytes) : ∀ t ∈ run s bytes, t.Fits := by
  induction bytes generalizing s with
  | nil =>
    rw [run]
    cases s with
    | inNumeral part n =>
      -- The end of the text ends a literal as well as any octet behind it would.
      rw [finish]
      split
      · exact fun t ht => List.mem_singleton.1 ht ▸ Numeral.fits_token n.inOrder
      · exact fun t ht => List.mem_singleton.1 ht ▸ trivial
    | between | stopped => exact fun _ ht => absurd ht List.not_mem_nil
    | word | inString | inEscape | inUnit => exact fun _ ht => List.mem_singleton.1 ht ▸ trivial
  | cons b rest ih =>
    intro t ht
    rw [run_cons] at ht
    rcases List.mem_append.1 ht with ht | ht
    · exact (fits_step hs b).2 t ht
    · exact ih (fits_step hs b).1 t ht

end Scan

/-! ### Trees of texts -/

/-- The parts of a frame fit. -/
def Frame.Fits : Frame → Prop
  | .array items => ∀ t ∈ items, t.Fits
  | .object members | .member members _ => ∀ m ∈ members, m.2.Fits

namespace Builder

/-- All that has been built so far fits. -/
def Fits : Builder → Prop
  | .building frames _ => ∀ f ∈ frames, f.Fits
  | .done tree _ => tree.Fits

section Frames

variable {frame : Frame} {frames : List Frame} {tree : Tree}

theorem fits_close (h : frame.Fits) (ending : Ending) : (close frame ending).Fits := by
  cases frame with
  | array items => exact Tree.fits_array fun t ht => h t (List.mem_reverse.1 ht)
  | object members => exact Tree.fits_object fun m hm => h m (List.mem_reverse.1 hm)
  | member members name =>
    refine Tree.fits_object fun m hm => ?_
    rcases List.mem_cons.1 (List.mem_reverse.1 hm) with rfl | hm
    · exact Tree.fits_fault
    · exact h m hm

theorem fits_breakOff (h : ∀ f ∈ frames, f.Fits) (ht : tree.Fits) :
    (breakOff frames tree).Fits := by
  -- From the innermost frame outwards: the tree of a frame becomes a part of the next one.
  induction frames generalizing tree with
  | nil => exact ht
  | cons frame frames ih =>
    obtain ⟨hframe, hframes⟩ := List.forall_mem_cons.1 h
    cases frame with
    | array items =>
      have hitems : (Frame.array (tree :: items)).Fits := List.forall_mem_cons.2 ⟨ht, hframe⟩
      exact ih hframes (fits_close hitems _)
    | object members => exact ih hframes (fits_close hframe _)
    | member members name =>
      have hmembers : (Frame.object ((name, tree) :: members)).Fits :=
        List.forall_mem_cons.2 ⟨ht, hframe⟩
      exact ih hframes (fits_close hmembers _)

theorem fits_deliver (h : ∀ f ∈ frames, f.Fits) (ht : tree.Fits) : (deliver frames tree).Fits := by
  cases frames with
  | nil => exact ht
  | cons frame frames =>
    obtain ⟨hframe, hframes⟩ := List.forall_mem_cons.1 h
    cases frame with
    | array items =>
      exact List.forall_mem_cons.2 ⟨List.forall_mem_cons.2 ⟨ht, hframe⟩, hframes⟩
    | object members => exact fits_breakOff h Tree.fits_fault
    | member members name =>
      exact List.forall_mem_cons.2 ⟨List.forall_mem_cons.2 ⟨ht, hframe⟩, hframes⟩

theorem fits_open (h : ∀ f ∈ frames, f.Fits) (hframe : frame.Fits) (expects : Expects) :
    (building (frame :: frames) expects).Fits :=
  List.forall_mem_cons.2 ⟨hframe, h⟩

theorem fits_value (h : ∀ f ∈ frames, f.Fits) {t : Token} (ht : t.Fits) :
    (value frames t).Fits := by
  cases t with
  | number n =>
    refine fits_deliver h fun m hm => ?_
    obtain rfl := Option.mem_toList.1 hm
    exact ht
  | null | bool b | string s => exact fits_deliver h fun _ hn => nomatch hn
  | openArray =>
    have hempty : (Frame.array []).Fits := fun _ ht => nomatch ht
    exact fits_open h hempty _
  | openObject =>
    have hempty : (Frame.object []).Fits := fun _ hm => nomatch hm
    exact fits_open h hempty _
  | _ => exact fits_breakOff h Tree.fits_fault

theorem fits_closeFrame (h : ∀ f ∈ frames, f.Fits) (t : Token) : (closeFrame frames t).Fits := by
  unfold closeFrame
  split
  · exact Tree.fits_fault
  all_goals obtain ⟨hframe, hframes⟩ := List.forall_mem_cons.1 h
  · exact fits_deliver hframes (fits_close hframe _)
  · exact fits_deliver hframes (fits_close hframe _)
  · exact fits_breakOff hframes (fits_close hframe _)

theorem fits_name (h : ∀ f ∈ frames, f.Fits) (t : Token) : (name frames t).Fits := by
  unfold name
  split
  · next members frames s =>
    obtain ⟨hmembers, hframes⟩ := List.forall_mem_cons.1 h
    have hmember : (Frame.member members s).Fits := hmembers
    exact fits_open hframes hmember _
  · exact fits_closeFrame h _

end Frames

/-- Each token that fits keeps it so. -/
theorem fits_step {state : Builder} (h : state.Fits) {t : Token} (ht : t.Fits) :
    (step state t).Fits := by
  cases state with
  | done tree trailing => exact h
  | building frames expects =>
    cases expects with
    | value => exact fits_value h ht
    | itemOrClose =>
      simp only [step]
      split
      · exact fits_closeFrame h t
      · exact fits_value h ht
    | commaOrClose =>
      simp only [step]
      split
      · exact h
      · exact h
      · exact fits_closeFrame h t
    | nameOrClose =>
      simp only [step]
      split
      · exact fits_closeFrame h t
      · exact fits_name h t
    | name => exact fits_name h t
    | colon =>
      simp only [step]
      split
      · exact h
      · exact fits_breakOff h Tree.fits_fault

theorem fits_foldl_step {state : Builder} (h : state.Fits) {ts : List Token}
    (hts : ∀ t ∈ ts, t.Fits) : (ts.foldl step state).Fits := by
  induction ts generalizing state with
  | nil => exact h
  | cons t ts ih =>
    obtain ⟨ht, hts⟩ := List.forall_mem_cons.1 hts
    exact ih (fits_step h ht) hts

theorem fits_finish {state : Builder} (h : state.Fits) : state.finish.1.Fits := by
  cases state with
  | done tree trailing => exact h
  | building frames expects => exact fits_breakOff h Tree.fits_fault

end Builder

/-- The numbers of the tree of a text fit. -/
theorem Tree.fits_ofBytes (bytes : Bytes) : (ofBytes bytes).1.Fits := by
  have hstart : (Builder.building [] .value).Fits := fun _ hf => nomatch hf
  have hbetween : Scan.between.Fits := trivial
  exact Builder.fits_finish (Builder.fits_foldl_step hstart (Scan.fits_run hbetween bytes))

end PipelineConsole.Json
