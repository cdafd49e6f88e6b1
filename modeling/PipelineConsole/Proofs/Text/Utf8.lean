import PipelineConsole.Text.Utf8

/-!
# Written octets are read back

The octets of a text spell its characters, whatever follows them, and they spell them without a
fault. No octet of a character outside ASCII looks like a character of ASCII.

## Main results

* `mem_utf8EncodeChar` — the octets of a character are its code, or lie beyond ASCII
* `scan_encodeChars` — the octets of a text are read as its characters
* `decode?_encode`, `decodeLenient_encodeChars` — both readings give the text back
-/

namespace PipelineConsole.Text.Utf8

/-! ### Octets and characters -/

@[simp] theorem encodeChars_nil : encodeChars [] = [] := rfl

@[simp] theorem encodeChars_cons (c : Char) (cs : List Char) :
    encodeChars (c :: cs) = String.utf8EncodeChar c ++ encodeChars cs :=
  List.flatMap_cons

@[simp] theorem encodeChars_append (cs ds : List Char) :
    encodeChars (cs ++ ds) = encodeChars cs ++ encodeChars ds :=
  List.flatMap_append

theorem encodeChars_flatMap {α : Type} (f : α → List Char) (xs : List α) :
    encodeChars (xs.flatMap f) = xs.flatMap fun x => encodeChars (f x) :=
  List.flatMap_assoc

theorem encode_ofList (cs : List Char) : encode (.ofList cs) = encodeChars cs := by
  rw [encode, String.toList_ofList]

/-- A character of ASCII is one octet. -/
theorem utf8EncodeChar_ascii {c : Char} (h : c.toNat < 0x80) :
    String.utf8EncodeChar c = [UInt8.ofNat c.toNat] := by
  have hle : c.val.toNat ≤ 0x7F := Nat.le_of_lt_succ h
  rw [String.utf8EncodeChar, if_pos hle]
  rfl

/-- The octets of a character are its code, or lie beyond ASCII. -/
theorem mem_utf8EncodeChar {c : Char} {b : UInt8} (h : b ∈ String.utf8EncodeChar c) :
    (c.toNat < 0x80 ∧ b.toNat = c.toNat) ∨ (0x80 ≤ c.toNat ∧ 0x80 ≤ b.toNat) := by
  by_cases hc : c.toNat < 0x80
  · rw [utf8EncodeChar_ascii hc, List.mem_singleton] at h
    subst h
    exact .inl ⟨hc, UInt8.toNat_ofNat_of_lt' (Nat.lt_trans hc (by decide))⟩
  · right
    refine ⟨Nat.le_of_not_lt hc, ?_⟩
    have hgt : ¬ c.val.toNat ≤ 0x7F := fun hle => hc (Nat.lt_succ_of_le hle)
    have high (n m : Nat) (hn : 0x80 ≤ n) (hsum : m + n < 256) :
        0x80 ≤ (UInt8.ofNat (m + n)).toNat := by
      rw [UInt8.toNat_ofNat_of_lt' hsum]
      omega
    rw [String.utf8EncodeChar, if_neg hgt] at h
    split at h
    · simp only [List.mem_cons, List.not_mem_nil, or_false] at h
      rcases h with rfl | rfl <;> exact high _ _ (by omega) (by omega)
    · split at h
      · simp only [List.mem_cons, List.not_mem_nil, or_false] at h
        rcases h with rfl | rfl | rfl <;> exact high _ _ (by omega) (by omega)
      · simp only [List.mem_cons, List.not_mem_nil, or_false] at h
        rcases h with rfl | rfl | rfl | rfl <;> exact high _ _ (by omega) (by omega)

/-- An octet of ASCII in a text is one of its characters. -/
theorem mem_encodeChars_ascii {cs : List Char} {b : UInt8} (h : b ∈ encodeChars cs)
    (hb : b.toNat < 0x80) : ∃ c ∈ cs, c.toNat = b.toNat := by
  obtain ⟨c, hc, hmem⟩ := List.mem_flatMap.1 h
  rcases mem_utf8EncodeChar hmem with ⟨-, heq⟩ | ⟨-, hle⟩
  · exact ⟨c, hc, heq.symm⟩
  · omega

/-! ### The machine reads a character back -/

section Scan

variable (rest : Bytes)

theorem scan_ascii {n : Nat} (h : n < 0x80) :
    scan none (UInt8.ofNat n :: rest) = some (Char.ofNat n) :: scan none rest := by
  have hn : (UInt8.ofNat n).toNat = n := UInt8.toNat_ofNat_of_lt' (Nat.lt_trans h (by decide))
  rw [scan, step, start, hn, lead, if_pos h]
  rfl

/-- An octet that starts a longer character. -/
theorem scan_lead {n : Nat} {p : Pending} (hn : n < 256) (h : lead n = .pending p) :
    scan none (UInt8.ofNat n :: rest) = scan (some p) rest := by
  rw [scan, step, start, UInt8.toNat_ofNat_of_lt' hn, h]
  rfl

/-- An octet that continues an unfinished character. -/
theorem scan_continue (more : Nat) {p : Pending} {n : Nat} (hmore : p.more = more + 1)
    (hn : n < 256) (hlow : p.low ≤ n) (hhigh : n ≤ p.high) :
    scan (some p) (UInt8.ofNat n :: rest) =
      scan (some ⟨p.value * 64 + (n - 0x80), more, 0x80, 0xBF⟩) rest := by
  rw [scan, step, UInt8.toNat_ofNat_of_lt' hn, if_pos ⟨hlow, hhigh⟩]
  simp only [hmore, List.nil_append]

/-- The octet that finishes a character. -/
theorem scan_last {p : Pending} {n : Nat} (hmore : p.more = 0) (hn : n < 256) (hlow : p.low ≤ n)
    (hhigh : n ≤ p.high) :
    scan (some p) (UInt8.ofNat n :: rest) =
      some (Char.ofNat (p.value * 64 + (n - 0x80))) :: scan none rest := by
  rw [scan, step, UInt8.toNat_ofNat_of_lt' hn, if_pos ⟨hlow, hhigh⟩]
  simp only [hmore, List.singleton_append]

/-- The octets of a character are read as the character. -/
theorem scan_utf8EncodeChar (c : Char) :
    scan none (String.utf8EncodeChar c ++ rest) = some c :: scan none rest := by
  have hvalid : c.val.toNat < 0xD800 ∨ 0xDFFF < c.val.toNat ∧ c.val.toNat < 0x110000 := c.valid
  have hback {n : Nat} (h : n = c.val.toNat) : Char.ofNat n = c := h ▸ Char.ofNat_toNat c
  generalize hv : c.val.toNat = v at hvalid hback
  rw [String.utf8EncodeChar, hv]
  -- One case for each number of octets, from one to four.
  split
  · rw [List.singleton_append, scan_ascii rest (by omega), hback rfl]
  · split
    · have hlead : lead (v / 64 % 0x20 + 0xC0) = .pending ⟨v / 64 % 0x20, 0, 0x80, 0xBF⟩ := by
        rw [lead, if_neg (by omega), if_neg (by omega), if_pos (by omega)]
        simp
      rw [List.cons_append, List.singleton_append, scan_lead _ (by omega) hlead,
        scan_last rest rfl (by omega) (by simp) (by simp only; omega), hback (by simp only; omega)]
    · split
      · have hlead : lead (v / 4096 % 0x10 + 0xE0) =
            .pending ⟨v / 4096 % 0x10, 1, if v / 4096 % 0x10 + 0xE0 = 0xE0 then 0xA0 else 0x80,
              if v / 4096 % 0x10 + 0xE0 = 0xED then 0x9F else 0xBF⟩ := by
          rw [lead, if_neg (by omega), if_neg (by omega), if_neg (by omega), if_pos (by omega)]
          simp
        rw [List.cons_append, List.cons_append, List.singleton_append,
          scan_lead _ (by omega) hlead,
          -- The second octet keeps out overlong forms and surrogates, which `c` is not.
          scan_continue _ 0 rfl (by omega) (by simp only; split <;> omega)
            (by simp only; split <;> omega),
          scan_last rest rfl (by omega) (by simp) (by simp only; omega),
          hback (by simp only; omega)]
      · have hlead : lead (v / 262144 % 0x08 + 0xF0) =
            .pending ⟨v / 262144 % 0x08, 2, if v / 262144 % 0x08 + 0xF0 = 0xF0 then 0x90 else 0x80,
              if v / 262144 % 0x08 + 0xF0 = 0xF4 then 0x8F else 0xBF⟩ := by
          rw [lead, if_neg (by omega), if_neg (by omega), if_neg (by omega), if_neg (by omega),
            if_pos (by omega)]
          simp
        rw [List.cons_append, List.cons_append, List.cons_append, List.singleton_append,
          scan_lead _ (by omega) hlead,
          scan_continue _ 1 rfl (by omega) (by simp only; split <;> omega)
            (by simp only; split <;> omega),
          scan_continue _ 0 rfl (by omega) (by simp) (by simp only; omega),
          scan_last rest rfl (by omega) (by simp) (by simp only; omega),
          hback (by simp only; omega)]

/-- The octets of a text are read as its characters. -/
theorem scan_encodeChars (cs : List Char) :
    scan none (encodeChars cs ++ rest) = cs.map some ++ scan none rest := by
  induction cs with
  | nil => rfl
  | cons c cs ih =>
    rw [encodeChars_cons, List.append_assoc, scan_utf8EncodeChar, ih]
    rfl

end Scan

/-! ### Both readings give a text back -/

theorem decodeChars?_encodeChars (cs : List Char) : decodeChars? (encodeChars cs) = some cs := by
  have hscan := scan_encodeChars [] cs
  rw [List.append_nil, scan, List.append_nil] at hscan
  rw [decodeChars?, hscan, List.mapM_map]
  have hpure : cs.mapM (id ∘ some) = pure (cs.map id) := List.mapM_pure
  rw [hpure, List.map_id]
  rfl

theorem decode?_encode (s : String) : decode? (encode s) = some s := by
  rw [decode?, encode, decodeChars?_encodeChars, Option.map_some, String.ofList_toList]

/-- Texts of the same octets are the same. -/
theorem encode_injective {s t : String} (h : encode s = encode t) : s = t := by
  have hs := decode?_encode s
  rw [h, decode?_encode] at hs
  exact (Option.some.inj hs).symm

/-- Only the empty text has no octets. -/
theorem encode_ne_nil {s : String} (h : s ≠ "") : encode s ≠ [] :=
  fun hnil => h (encode_injective hnil)

/-- An octet gives something out or leaves something unfinished. -/
theorem step_progress (pending : Option Pending) (b : UInt8) :
    (step pending b).2 ≠ [] ∨ (step pending b).1.isSome := by
  have hstart : (start b).2 ≠ [] ∨ (start b).1.isSome := by
    unfold start
    split
    · exact .inl (List.cons_ne_nil _ _)
    · exact .inr rfl
    · exact .inl (List.cons_ne_nil _ _)
  cases pending with
  | none => exact hstart
  | some p =>
    unfold step
    dsimp only
    split
    · split
      · exact .inl (List.cons_ne_nil _ _)
      · exact .inr rfl
    · exact .inl (List.cons_ne_nil _ _)

/-- Whoever reads something gives something out. -/
theorem scan_ne_nil {pending : Option Pending} {bytes : Bytes} (h : pending.isSome ∨ bytes ≠ []) :
    scan pending bytes ≠ [] := by
  induction bytes generalizing pending with
  | nil =>
    cases pending with
    | none => exact absurd rfl (h.resolve_left Bool.false_ne_true)
    | some p => exact List.cons_ne_nil _ _
  | cons b bytes ih =>
    rw [scan]
    rcases step_progress pending b with hout | hnext
    · exact List.append_ne_nil_of_left_ne_nil hout _
    · exact List.append_ne_nil_of_right_ne_nil _ (ih (.inl hnext))

/-- Only no octets at all are the empty text. -/
theorem eq_nil_of_decode? {bytes : Bytes} (h : decode? bytes = some "") : bytes = [] := by
  obtain ⟨cs, hcs, hempty⟩ := Option.map_eq_some_iff.1 h
  obtain rfl : cs = [] := String.ofList_injective hempty
  rw [decodeChars?] at hcs
  cases hscan : scan none bytes with
  | nil => exact Decidable.byContradiction fun hne => scan_ne_nil (.inr hne) hscan
  | cons c out =>
    rw [hscan, List.mapM_cons] at hcs
    obtain ⟨c', -, hcs⟩ := Option.bind_eq_some_iff.1 hcs
    obtain ⟨out', -, hcs⟩ := Option.bind_eq_some_iff.1 hcs
    cases hcs

theorem decodeLenient_encodeChars (cs : List Char) :
    decodeLenient (encodeChars cs) = .ofList cs := by
  have hscan := scan_encodeChars [] cs
  rw [List.append_nil, scan, List.append_nil] at hscan
  rw [decodeLenient, hscan, List.map_map]
  congr 1
  exact List.map_id cs

end PipelineConsole.Text.Utf8
