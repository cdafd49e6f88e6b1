import PipelineConsole.Http.Query
import PipelineConsole.Proofs.Http.Percent
import PipelineConsole.Proofs.Text.Pieces

/-!
# Written queries are read back

## Main results

* `component_writeComponent` — a written name or value is read back
* `pairs_write` — the pairs of a written query are those it was written from
-/

namespace PipelineConsole.Http.Query

open Text.Utf8 (Bytes encodeChars)
open Percent (Spells digitByte encodeByte)

/-! ### Names and values -/

/-- The written form of an octet of a name or a value. -/
def writeByte (b : UInt8) : List Char :=
  if b = 0x20 then ['+'] else if isPlain b then [Char.ofNat b.toNat] else encodeByte b

theorem writeComponent_eq (s : String) :
    encodeChars (writeComponent s) =
      (Text.Utf8.encode s).flatMap fun b => encodeChars (writeByte b) :=
  Text.Utf8.encodeChars_flatMap writeByte _

/-- What stands for itself is ASCII and no separator, and has no meaning of its own. -/
theorem isPlain_bounds {b : UInt8} (h : isPlain b) :
    b < 0x80 ∧ b ≠ 0x25 ∧ b ≠ 0x26 ∧ b ≠ 0x2B ∧ b ≠ 0x3D := by
  simp only [isPlain, Bool.or_eq_true, Bool.and_eq_true, decide_eq_true_eq, beq_iff_eq,
    UInt8.le_iff_toNat_le, ← UInt8.toNat_inj] at h
  simp only [UInt8.lt_iff_toNat_lt, ne_eq, ← UInt8.toNat_inj, UInt8.reduceToNat] at h ⊢
  omega

theorem isPlain_digitByte : ∀ n < 16, isPlain (digitByte n) := by decide

/-- A written octet holds a plus sign, a percent sign, or octets that stand for themselves. -/
theorem mem_writeByte {b c : UInt8} (h : c ∈ encodeChars (writeByte b)) :
    c = 0x2B ∨ c = 0x25 ∨ isPlain c := by
  have hb := b.toNat_lt
  unfold writeByte at h
  split at h
  · exact .inl (List.mem_singleton.1 h)
  · split at h
    · next hplain =>
      rw [Percent.encodeChars_char (isPlain_bounds hplain).1] at h
      exact .inr (.inr (List.mem_singleton.1 h ▸ hplain))
    · simp only [Percent.encodeChars_encodeByte, List.mem_cons, List.not_mem_nil, or_false] at h
      rcases h with rfl | rfl | rfl
      · exact .inr (.inl rfl)
      · exact .inr (.inr (isPlain_digitByte _ (by omega)))
      · exact .inr (.inr (isPlain_digitByte _ (by omega)))

/-- So does a written name or value. -/
theorem mem_writeComponent {s : String} {c : UInt8} (h : c ∈ encodeChars (writeComponent s)) :
    c = 0x2B ∨ c = 0x25 ∨ isPlain c := by
  rw [writeComponent_eq] at h
  obtain ⟨b, -, hb⟩ := List.mem_flatMap.1 h
  exact mem_writeByte hb

/-- No separator is in a written name or value. -/
theorem not_mem_writeComponent (s : String) :
    0x26 ∉ encodeChars (writeComponent s) ∧ 0x3D ∉ encodeChars (writeComponent s) := by
  constructor
  · intro h
    rcases mem_writeComponent h with h | h | h
    · exact absurd h (by decide)
    · exact absurd h (by decide)
    · exact (isPlain_bounds h).2.2.1 rfl
  · intro h
    rcases mem_writeComponent h with h | h | h
    · exact absurd h (by decide)
    · exact absurd h (by decide)
    · exact (isPlain_bounds h).2.2.2.2 rfl

/-- A plus sign is read as a space. -/
def plusToSpace (b : UInt8) : UInt8 := if b = 0x2B then 0x20 else b

theorem plusToSpace_of_ne {b : UInt8} (h : b ≠ 0x2B) : plusToSpace b = b := if_neg h

/-- A written octet stands for the octet once plus signs are spaces. -/
theorem spells_writeByte (b : UInt8) :
    Spells ((encodeChars (writeByte b)).map plusToSpace) b := by
  have hb := b.toNat_lt
  unfold writeByte
  split
  · next h =>
    subst h
    exact Percent.spells_self (by decide)
  · split
    · next hplain =>
      obtain ⟨hascii, hpercent, -, hplus, -⟩ := isPlain_bounds hplain
      rw [Percent.encodeChars_char hascii, List.map_singleton, plusToSpace_of_ne hplus]
      exact Percent.spells_self hpercent
    · have hdigit (n : Nat) (hn : n < 16) : plusToSpace (digitByte n) = digitByte n :=
        plusToSpace_of_ne (isPlain_bounds (isPlain_digitByte n hn)).2.2.2.1
      have hsame : (encodeChars (encodeByte b)).map plusToSpace = encodeChars (encodeByte b) := by
        simp only [Percent.encodeChars_encodeByte, List.map_cons, List.map_nil,
          hdigit _ (show b.toNat / 16 < 16 by omega), hdigit _ (show b.toNat % 16 < 16 by omega)]
        rfl
      rw [hsame]
      exact Percent.spells_encodeByte b

/-- A written name or value is read back. -/
theorem component_writeComponent (s : String) : component (encodeChars (writeComponent s)) = s := by
  have hbytes : Percent.decode ((encodeChars (writeComponent s)).map plusToSpace) =
      Text.Utf8.encode s := by
    rw [writeComponent_eq, List.map_flatMap]
    exact Percent.decode_flatMap fun b _ => spells_writeByte b
  show Text.Utf8.decodeLenient
    (Percent.decode ((encodeChars (writeComponent s)).map plusToSpace)) = s
  rw [hbytes, Text.Utf8.encode, Text.Utf8.decodeLenient_encodeChars, String.ofList_toList]

/-! ### Pairs -/

/-- The octets of a written pair. -/
theorem encode_writePair (p : String × String) :
    Text.Utf8.encode (writePair p) =
      encodeChars (writeComponent p.1) ++ 0x3D :: encodeChars (writeComponent p.2) := by
  rw [writePair, Text.Utf8.encode_ofList, Text.Utf8.encodeChars_append,
    Text.Utf8.encodeChars_cons]
  rfl

theorem pair_writePair (p : String × String) : pair (Text.Utf8.encode (writePair p)) = p := by
  have hname : ∀ b ∈ encodeChars (writeComponent p.1), decide (b ≠ 0x3D) = true := fun b hb =>
    decide_eq_true fun heq => (not_mem_writeComponent p.1).2 (heq ▸ hb)
  have htake (bytes : Bytes) : List.takeWhile (fun b => decide (b ≠ 0x3D)) (0x3D :: bytes) = [] :=
    rfl
  have hdrop (bytes : Bytes) :
      List.dropWhile (fun b => decide (b ≠ 0x3D)) (0x3D :: bytes) = 0x3D :: bytes := rfl
  rw [pair, encode_writePair, List.takeWhile_append_of_pos hname,
    List.dropWhile_append_of_pos hname, htake, hdrop, List.append_nil, List.drop_one,
    List.tail_cons, component_writeComponent, component_writeComponent]

theorem not_mem_encode_writePair (p : String × String) :
    0x26 ∉ Text.Utf8.encode (writePair p) := by
  rw [encode_writePair, List.mem_append, List.mem_cons]
  rintro (h | h | h)
  · exact (not_mem_writeComponent p.1).1 h
  · exact absurd h (by decide)
  · exact (not_mem_writeComponent p.2).1 h

/-- A written query is made of its pairs. -/
theorem encode_write (p : String × String) (ps : List (String × String)) :
    Text.Utf8.encode (write (p :: ps)) = Text.Utf8.encode (writePair p) ++
      (ps.map fun q => Text.Utf8.encode (writePair q)).flatMap (0x26 :: ·) := by
  have hsep : String.utf8EncodeChar '&' = [0x26] := by decide
  have hamp : "&".toList = ['&'] := by decide
  rw [write, List.map_cons, Text.Utf8.encode, Text.toList_intercalate hamp,
    Text.Utf8.encodeChars_append, Text.Utf8.encodeChars_flatMap, List.map_map, List.flatMap_map,
    List.flatMap_map]
  simp only [Text.Utf8.encodeChars_cons, hsep, List.singleton_append]
  rfl

/-- The pairs of a written query are those it was written from. -/
theorem pairs_write (ps : List (String × String)) : pairs (write ps) = ps := by
  cases ps with
  | nil => decide
  | cons p ps =>
    have hparts : ∀ part ∈ (p :: ps).map fun q => Text.Utf8.encode (writePair q), 0x26 ∉ part := by
      intro part hpart
      obtain ⟨q, -, rfl⟩ := List.mem_map.1 hpart
      exact not_mem_encode_writePair q
    -- A pair holds an equals sign at least, so that no piece is dropped for being empty.
    have hfilled : ∀ part ∈ (p :: ps).map fun q => Text.Utf8.encode (writePair q),
        (!part.isEmpty) = true := by
      intro part hpart
      obtain ⟨q, -, rfl⟩ := List.mem_map.1 hpart
      rw [encode_writePair]
      simp
    have hpieces : Text.pieces 0x26 (Text.Utf8.encode (write (p :: ps))) =
        (p :: ps).map fun q => Text.Utf8.encode (writePair q) := by
      rw [encode_write]
      exact Text.pieces_flatMap hparts
    rw [pairs, hpieces, List.filter_eq_self.2 hfilled, List.map_map]
    exact (List.map_congr_left fun q _ => pair_writePair q).trans (List.map_id _)

end PipelineConsole.Http.Query
