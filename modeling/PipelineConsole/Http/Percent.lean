import PipelineConsole.Text.Utf8

/-!
# Percent-encoding

An octet is written as a percent sign and two hexadecimal digits. Reading takes digits of either
case and leaves a percent sign that is not followed by two digits as it is.

## Main definitions

* `Percent.encode` — octets as characters, those that are kept as they are
* `Percent.decode` — the octets that are meant
-/

namespace PipelineConsole.Http.Percent

open Text.Utf8 (Bytes)

/-- The hexadecimal digit of a number below 16, in upper case. -/
def hexDigit (n : Nat) : Char := if n < 10 then Char.ofNat (0x30 + n) else Char.ofNat (0x37 + n)

/-- The value of a hexadecimal digit. -/
def hexValue? (b : UInt8) : Option UInt8 :=
  if 0x30 ≤ b ∧ b ≤ 0x39 then some (b - 0x30)
  else if 0x41 ≤ b ∧ b ≤ 0x46 then some (b - 0x37)
  else if 0x61 ≤ b ∧ b ≤ 0x66 then some (b - 0x57)
  else none

/-- An octet in its encoded form. -/
def encodeByte (b : UInt8) : List Char :=
  ['%', hexDigit (b.toNat / 16), hexDigit (b.toNat % 16)]

/-- Encodes octets, except those to keep, which must be ASCII. -/
def encode (kept : UInt8 → Bool) (bytes : Bytes) : List Char :=
  bytes.flatMap fun b => if kept b then [Char.ofNat b.toNat] else encodeByte b

/-- The octet that a percent sign with the octets behind it stands for. -/
def escaped? (b : UInt8) (rest : Bytes) : Option UInt8 :=
  match rest with
  | h :: l :: _ =>
    if b = 0x25 then do return (← hexValue? h) * 16 + (← hexValue? l) else none
  | _ => none

/-- The octets that are meant, without the first `skipped` ones, which have been read already. -/
def decodeFrom : (skipped : Nat) → Bytes → Bytes
  | _, [] => []
  | skipped + 1, _ :: rest => decodeFrom skipped rest
  | 0, b :: rest =>
    match escaped? b rest with
    | some c => c :: decodeFrom 2 rest
    | none => b :: decodeFrom 0 rest

/-- The octets that are meant. -/
def decode (bytes : Bytes) : Bytes := decodeFrom 0 bytes

end PipelineConsole.Http.Percent
