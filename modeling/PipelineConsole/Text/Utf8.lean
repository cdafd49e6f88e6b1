/-!
# UTF-8

Texts as octets and octets as texts. Reading is a machine that takes one octet at a time, so that a
text may arrive in any number of pieces: it keeps the character that is not finished yet, and gives
out a character or a fault for each maximal part of the octets that belongs together. Reading a
whole sequence strictly refuses any fault, reading it leniently puts `U+FFFD` in the place of each.

## Main definitions

* `Utf8.encode` — the octets of a text
* `Utf8.Pending`, `Utf8.step`, `Utf8.scan` — the machine
* `Utf8.decode?`, `Utf8.decodeLenient` — the strict and the lenient reading
-/

namespace PipelineConsole.Text.Utf8

/-- An octet string. -/
abbrev Bytes := List UInt8

/-- The octets of a list of characters. -/
def encodeChars (cs : List Char) : Bytes := cs.flatMap String.utf8EncodeChar

/-- The octets of a text. -/
def encode (s : String) : Bytes := encodeChars s.toList

/-- An unfinished character: the bits read so far, the number of octets still owed (one less than
stored here), and the least and greatest octet that may come next. -/
structure Pending where
  value : Nat
  more : Nat
  low : Nat
  high : Nat
  deriving DecidableEq, Repr

/-- What the first octet of a character leads to. -/
inductive Lead where
  | ascii (c : Char)
  | pending (p : Pending)
  | invalid

/-- The octets that may start a character. The ranges for the second octet keep out overlong forms,
surrogates and values beyond `U+10FFFF`. -/
def lead (b : Nat) : Lead :=
  if b < 0x80 then .ascii (Char.ofNat b)
  else if b < 0xC2 then .invalid
  else if b < 0xE0 then .pending ⟨b - 0xC0, 0, 0x80, 0xBF⟩
  else if b < 0xF0 then
    .pending ⟨b - 0xE0, 1, if b = 0xE0 then 0xA0 else 0x80, if b = 0xED then 0x9F else 0xBF⟩
  else if b < 0xF5 then
    .pending ⟨b - 0xF0, 2, if b = 0xF0 then 0x90 else 0x80, if b = 0xF4 then 0x8F else 0xBF⟩
  else .invalid

/-- Reads an octet between characters; `none` among the characters given out is a fault. -/
def start (b : UInt8) : Option Pending × List (Option Char) :=
  match lead b.toNat with
  | .ascii c => (none, [some c])
  | .pending p => (some p, [])
  | .invalid => (none, [none])

/-- Reads an octet. One that cannot continue the unfinished character is a fault in its place, and
is then read as the start of the next. -/
def step (pending : Option Pending) (b : UInt8) : Option Pending × List (Option Char) :=
  match pending with
  | none => start b
  | some p =>
    if p.low ≤ b.toNat ∧ b.toNat ≤ p.high then
      let value := p.value * 64 + (b.toNat - 0x80)
      match p.more with
      | 0 => (none, [some (Char.ofNat value)])
      | more + 1 => (some ⟨value, more, 0x80, 0xBF⟩, [])
    else
      let (next, out) := start b
      (next, none :: out)

/-- The characters and faults of an octet string read from a state of the machine. -/
def scan : Option Pending → Bytes → List (Option Char)
  | none, [] => []
  | some _, [] => [none]
  | pending, b :: rest =>
    let (next, out) := step pending b
    out ++ scan next rest

/-- The characters of an octet string, if it has no fault. -/
def decodeChars? (bytes : Bytes) : Option (List Char) := (scan none bytes).mapM id

/-- The text of an octet string, if it has no fault. -/
def decode? (bytes : Bytes) : Option String := (decodeChars? bytes).map .ofList

/-- The text of an octet string, with `U+FFFD` for each fault. -/
def decodeLenient (bytes : Bytes) : String :=
  .ofList ((scan none bytes).map (·.getD '\uFFFD'))

end PipelineConsole.Text.Utf8
