import Mathlib.Algebra.Group.Nat.Defs
import Mathlib.Tactic.SplitIfs
import PipelineConsole.Proofs.Text.Utf8

/-!
# Faulty octets are read apart

An octet of ASCII is never part of a longer character. Whatever octets stand before it, with
whatever faults, it is read as its own character, and what stands behind it is read by itself. So
octets can be cut at line feeds before or after they are read.

## Main definitions

* `Pending.BeyondAscii`, `KeepsBeyond` — what the machine may keep between octets

## Main results

* `scan_append_ascii` — octets are read apart at an octet of ASCII
* `mem_of_mem_scan` — a character of ASCII comes from its own octet
* `toList_decodeLenient_append`, `not_mem_decodeLenient` — the same of the lenient reading
-/

namespace PipelineConsole.Text.Utf8

/-- The octet that comes next lies beyond ASCII, and so does the character that is finished. -/
structure Pending.BeyondAscii (p : Pending) : Prop where
  low : 0x80 ≤ p.low
  value : 0x80 ≤ (p.value * 64 + (p.low - 0x80)) * 64 ^ p.more

/-- What the machine keeps between octets lies beyond ASCII. -/
def KeepsBeyond (pending : Option Pending) : Prop := ∀ p ∈ pending, p.BeyondAscii

theorem keepsBeyond_none : KeepsBeyond none := fun _ h => nomatch h

theorem keepsBeyond_some {p : Pending} (h : p.BeyondAscii) : KeepsBeyond (some p) := by
  intro q hq
  obtain rfl := Option.some.inj hq
  exact h

theorem lt_of_lead_ascii {n : Nat} {c : Char} (h : lead n = .ascii c) : n < 0x80 := by
  unfold lead at h
  split_ifs at h with hascii
  exact hascii

/-- A character that takes more than one octet lies beyond ASCII. -/
theorem beyondAscii_of_lead {n : Nat} {p : Pending} (h : lead n = .pending p) :
    p.BeyondAscii := by
  unfold lead at h
  split_ifs at h
  all_goals
    obtain rfl := Lead.pending.inj h
    constructor <;> dsimp only <;> omega

/-- A number that is no character is read as the character zero. -/
theorem toNat_ofNat_cases (n : Nat) : (Char.ofNat n).toNat = n ∨ (Char.ofNat n).toNat = 0 := by
  by_cases h : n.isValidChar
  · left
    rw [Char.ofNat, dif_pos h]
    rfl
  · right
    rw [Char.ofNat, dif_neg h]
    rfl

/-- An octet in the middle of a character leaves it beyond ASCII. -/
theorem Pending.BeyondAscii.next {p : Pending} (h : p.BeyondAscii) {n more : Nat} (hn : p.low ≤ n)
    (hmore : p.more = more + 1) :
    BeyondAscii ⟨p.value * 64 + (n - 0x80), more, 0x80, 0xBF⟩ := by
  have hle : p.value * 64 + (p.low - 0x80) ≤ p.value * 64 + (n - 0x80) := by omega
  have hvalue : 0x80 ≤ (p.value * 64 + (p.low - 0x80)) * 64 * 64 ^ more := by
    rw [Nat.mul_assoc, Nat.mul_comm 64, ← Nat.pow_succ, Nat.succ_eq_add_one, ← hmore]
    exact h.value
  have hmul := Nat.mul_le_mul_right (64 ^ more) (Nat.mul_le_mul_right 64 hle)
  refine ⟨Nat.le_refl _, ?_⟩
  rw [Nat.sub_self, Nat.add_zero]
  exact Nat.le_trans hvalue hmul

/-- The octet that finishes a character leaves it beyond ASCII. -/
theorem Pending.BeyondAscii.last {p : Pending} (h : p.BeyondAscii) {n : Nat} (hn : p.low ≤ n)
    (hmore : p.more = 0) : 0x80 ≤ p.value * 64 + (n - 0x80) := by
  have hvalue := h.value
  rw [hmore, Nat.pow_zero, Nat.mul_one] at hvalue
  omega

theorem start_ascii {b : UInt8} (h : b.toNat < 0x80) :
    start b = (none, [some (Char.ofNat b.toNat)]) := by
  rw [start, lead, if_pos h]

/-- An octet beyond ASCII gives out no character before the next one. -/
theorem start_of_le {b : UInt8} (h : 0x80 ≤ b.toNat) :
    KeepsBeyond (start b).1 ∧ ∀ c, some c ∉ (start b).2 := by
  unfold start
  cases hlead : lead b.toNat with
  | ascii c => exact absurd (lt_of_lead_ascii hlead) (Nat.not_lt.2 h)
  | pending p => exact ⟨keepsBeyond_some (beyondAscii_of_lead hlead), by simp⟩
  | invalid => exact ⟨keepsBeyond_none, by simp⟩

/-- An octet of ASCII is a fault in the place of what is not finished, and is then read as its
character. -/
theorem step_ascii {pending : Option Pending} (h : KeepsBeyond pending) {b : UInt8}
    (hb : b.toNat < 0x80) :
    step pending b = (none, scan pending [] ++ [some (Char.ofNat b.toNat)]) := by
  cases pending with
  | none => exact start_ascii hb
  | some p =>
    have hlow := (h p rfl).low
    rw [step, if_neg (by omega), start_ascii hb]
    rfl

/-- An octet beyond ASCII gives out no character of ASCII, except that a number that is no
character at all is read as zero. -/
theorem step_of_le {pending : Option Pending} (h : KeepsBeyond pending) {b : UInt8}
    (hb : 0x80 ≤ b.toNat) :
    KeepsBeyond (step pending b).1 ∧
      ∀ c, some c ∈ (step pending b).2 → c.toNat = 0 ∨ 0x80 ≤ c.toNat := by
  have hstart : KeepsBeyond (start b).1 ∧ ∀ c, some c ∉ (start b).2 := start_of_le hb
  cases pending with
  | none => exact ⟨hstart.1, fun c hc => absurd hc (hstart.2 c)⟩
  | some p =>
    have hp := h p rfl
    unfold step
    dsimp only
    split
    · next hrange =>
      split
      · next hmore =>
        refine ⟨keepsBeyond_none, fun c hc => ?_⟩
        have hlast := hp.last hrange.1 hmore
        rw [Option.some.inj (List.mem_singleton.1 hc)]
        rcases toNat_ofNat_cases (p.value * 64 + (b.toNat - 0x80)) with heq | heq
        · exact .inr (heq.symm ▸ hlast)
        · exact .inl heq
      · next more hmore =>
        exact ⟨keepsBeyond_some (hp.next hrange.1 hmore), fun c hc => nomatch hc⟩
    · refine ⟨hstart.1, fun c hc => ?_⟩
      exact absurd (by simpa using hc) (hstart.2 c)

/-- The machine keeps nothing but unfinished characters beyond ASCII. -/
theorem keepsBeyond_step {pending : Option Pending} (h : KeepsBeyond pending) (b : UInt8) :
    KeepsBeyond (step pending b).1 := by
  by_cases hb : b.toNat < 0x80
  · rw [step_ascii h hb]
    exact keepsBeyond_none
  · exact (step_of_le h (Nat.le_of_not_lt hb)).1

/-- Octets are read apart at an octet of ASCII. -/
theorem scan_append_ascii {pending : Option Pending} (h : KeepsBeyond pending) {b : UInt8}
    (hb : b.toNat < 0x80) (xs ys : Bytes) :
    scan pending (xs ++ b :: ys) =
      scan pending xs ++ some (Char.ofNat b.toNat) :: scan none ys := by
  induction xs generalizing pending with
  | nil =>
    rw [List.nil_append, scan, step_ascii h hb]
    dsimp only
    rw [List.append_assoc, List.singleton_append]
  | cons x xs ih =>
    rw [List.cons_append, scan, scan]
    dsimp only
    rw [ih (keepsBeyond_step h x), List.append_assoc]

/-- A character of ASCII other than zero comes from its own octet. -/
theorem mem_of_mem_scan {pending : Option Pending} (h : KeepsBeyond pending) {xs : Bytes} {c : Char}
    (hc : some c ∈ scan pending xs) (hzero : c.toNat ≠ 0) (hascii : c.toNat < 0x80) :
    ∃ b ∈ xs, b.toNat = c.toNat := by
  induction xs generalizing pending with
  | nil => cases pending <;> simp [scan] at hc
  | cons x xs ih =>
    rw [scan, List.mem_append] at hc
    rcases hc with hc | hc
    · by_cases hx : x.toNat < 0x80
      · rw [step_ascii h hx, List.mem_append, List.mem_singleton, Option.some_inj] at hc
        rcases hc with hc | rfl
        · cases pending <;> simp [scan] at hc
        · exact ⟨x, List.mem_cons_self, ((toNat_ofNat_cases x.toNat).resolve_right hzero).symm⟩
      · have hout := (step_of_le h (Nat.le_of_not_lt hx)).2 c hc
        omega
    · obtain ⟨b, hb, heq⟩ := ih (keepsBeyond_step h x) hc
      exact ⟨b, List.mem_cons_of_mem x hb, heq⟩
/-! ### The lenient reading -/

section Lenient

variable {c : Char} {xs : Bytes}

theorem toList_decodeLenient (xs : Bytes) :
    (decodeLenient xs).toList = (scan none xs).map (·.getD '\uFFFD') :=
  String.toList_ofList

/-- Octets are read apart at an octet of ASCII. -/
theorem toList_decodeLenient_append {b : UInt8} (hb : b.toNat < 0x80) (xs ys : Bytes) :
    (decodeLenient (xs ++ b :: ys)).toList =
      (decodeLenient xs).toList ++ Char.ofNat b.toNat :: (decodeLenient ys).toList := by
  simp only [toList_decodeLenient, scan_append_ascii keepsBeyond_none hb, List.map_append,
    List.map_cons, Option.getD_some]

/-- A character of ASCII other than zero is read from its own octet only. -/
theorem not_mem_decodeLenient {b : UInt8} (hcode : b.toNat = c.toNat) (hzero : c.toNat ≠ 0)
    (hascii : c.toNat < 0x80) (h : b ∉ xs) : c ∉ (decodeLenient xs).toList := by
  rw [toList_decodeLenient]
  intro hc
  obtain ⟨out, hout, heq⟩ := List.mem_map.1 hc
  cases out with
  | none =>
    rw [← heq] at hascii
    exact absurd hascii (by decide)
  | some d =>
    obtain rfl : d = c := heq
    obtain ⟨octet, hoctet, hd⟩ := mem_of_mem_scan keepsBeyond_none hout hzero hascii
    obtain rfl : octet = b := UInt8.toNat_inj.1 (hd.trans hcode.symm)
    exact h hoctet

end Lenient

end PipelineConsole.Text.Utf8
