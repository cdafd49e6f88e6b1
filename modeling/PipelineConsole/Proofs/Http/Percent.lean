import PipelineConsole.Http.Percent
import PipelineConsole.Proofs.Text.Utf8

/-!
# Percent-encoded octets are read back

Octets are read back one by one: what is written for an octet stands for it, whatever follows.

## Main definitions

* `Percent.Spells` — octets that stand for one octet

## Main results

* `decode_flatMap` — what stands for octets one by one stands for all of them
* `decode_encode` — encoded octets are read back
* `not_mem_encode` — characters that are not in encoded octets
-/

namespace PipelineConsole.Http.Percent

open Text.Utf8 (Bytes encodeChars)

/-- Some octets stand for one octet, whatever follows them. -/
def Spells (spelling : Bytes) (b : UInt8) : Prop :=
  ∀ rest, decode (spelling ++ rest) = b :: decode rest

/-- What stands for octets one by one stands for all of them. -/
theorem decode_flatMap {spelling : UInt8 → Bytes} {bytes : Bytes}
    (h : ∀ b ∈ bytes, Spells (spelling b) b) : decode (bytes.flatMap spelling) = bytes := by
  induction bytes with
  | nil => rfl
  | cons b bytes ih =>
    obtain ⟨hb, hbytes⟩ := List.forall_mem_cons.1 h
    rw [List.flatMap_cons, hb, ih hbytes]

/-- Octets stand for something. -/
theorem eq_nil_of_decode {bytes : Bytes} (h : decode bytes = []) : bytes = [] := by
  cases bytes with
  | nil => rfl
  | cons b rest =>
    rw [decode, decodeFrom] at h
    split at h <;> cases h

/-! ### Digits -/

/-- The octet of a hexadecimal digit. -/
def digitByte (n : Nat) : UInt8 := .ofNat (hexDigit n).toNat

theorem hexDigit_ascii : ∀ n < 16, (hexDigit n).toNat < 0x80 := by decide

theorem hexValue?_digitByte : ∀ n < 16, hexValue? (digitByte n) = some (.ofNat n) := by decide

/-- An octet in its encoded form, as octets. -/
theorem encodeChars_encodeByte (b : UInt8) :
    encodeChars (encodeByte b) = [0x25, digitByte (b.toNat / 16), digitByte (b.toNat % 16)] := by
  have hb := b.toNat_lt
  have hhigh := hexDigit_ascii (b.toNat / 16) (by omega)
  have hlow := hexDigit_ascii (b.toNat % 16) (by omega)
  have hpercent : String.utf8EncodeChar '%' = [0x25] := by decide
  simp only [encodeByte, Text.Utf8.encodeChars_cons, Text.Utf8.encodeChars_nil, hpercent,
    Text.Utf8.utf8EncodeChar_ascii hhigh, Text.Utf8.utf8EncodeChar_ascii hlow]
  rfl

theorem spells_encodeByte (b : UInt8) : Spells (encodeChars (encodeByte b)) b := by
  intro rest
  have hb := b.toNat_lt
  have hvalue : UInt8.ofNat (b.toNat / 16) * 16 + UInt8.ofNat (b.toNat % 16) = b := by
    apply UInt8.toNat_inj.1
    rw [UInt8.toNat_add, UInt8.toNat_mul, UInt8.toNat_ofNat', UInt8.toNat_ofNat']
    simp only [UInt8.reduceToNat]
    omega
  have hescaped : escaped? 0x25
      (digitByte (b.toNat / 16) :: digitByte (b.toNat % 16) :: rest) = some b := by
    rw [escaped?, if_pos rfl, hexValue?_digitByte _ (by omega), hexValue?_digitByte _ (by omega)]
    exact congrArg some hvalue
  rw [encodeChars_encodeByte]
  simp only [decode, List.cons_append, List.nil_append, decodeFrom, hescaped]

/-! ### Octets that are kept -/

theorem toNat_ofNat_ascii : ∀ n < 0x80, (Char.ofNat n).toNat = n := by decide

/-- A kept octet is a character of ASCII. -/
theorem encodeChars_char {b : UInt8} (h : b < 0x80) : encodeChars [Char.ofNat b.toNat] = [b] := by
  have hlt : b.toNat < 0x80 := UInt8.lt_iff_toNat_lt.1 h
  have hcode := toNat_ofNat_ascii b.toNat hlt
  have hone := Text.Utf8.utf8EncodeChar_ascii (c := Char.ofNat b.toNat) (by omega)
  rw [Text.Utf8.encodeChars_cons, hone, hcode, UInt8.ofNat_toNat]
  rfl

/-- An octet that is no percent sign stands for itself. -/
theorem spells_self {b : UInt8} (h : b ≠ 0x25) : Spells [b] b := by
  intro rest
  have hescaped : escaped? b rest = none := by
    cases rest with
    | nil => rfl
    | cons c rest => cases rest <;> simp [escaped?, h]
  simp only [decode, List.cons_append, List.nil_append, decodeFrom, hescaped]

variable {kept : UInt8 → Bool} {bytes : Bytes}

/-- Encoded octets are read back, if only characters of ASCII other than the percent sign are
kept. -/
theorem decode_encode (hkept : ∀ b, kept b → b < 0x80 ∧ b ≠ 0x25) (bytes : Bytes) :
    decode (encodeChars (encode kept bytes)) = bytes := by
  rw [encode, Text.Utf8.encodeChars_flatMap]
  refine decode_flatMap fun b _ => ?_
  split
  · next hb =>
    rw [encodeChars_char (hkept b hb).1]
    exact spells_self (hkept b hb).2
  · exact spells_encodeByte b

/-- A character that is neither in an encoded octet nor kept is not there. -/
theorem not_mem_encode {c : Char} (hencoded : c ≠ '%' ∧ ∀ n < 16, hexDigit n ≠ c)
    (hkept : ∀ b ∈ bytes, kept b → Char.ofNat b.toNat ≠ c) : c ∉ encode kept bytes := by
  intro hmem
  obtain ⟨b, hbytes, hb⟩ := List.mem_flatMap.1 hmem
  have hlt := b.toNat_lt
  split at hb
  · next hk => exact hkept b hbytes hk (List.mem_singleton.1 hb).symm
  · simp only [encodeByte, List.mem_cons, List.not_mem_nil, or_false] at hb
    rcases hb with h | h | h
    · exact hencoded.1 h
    · exact hencoded.2 _ (by omega) h.symm
    · exact hencoded.2 _ (by omega) h.symm

end PipelineConsole.Http.Percent
