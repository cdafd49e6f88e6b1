/-!
# Names in ASCII

Punycode writes a text with ASCII characters only. Those that the text has of its own come first;
then the others follow in the order of their code points, each as the distance from the one before
it, counted over all places of all code points that it passes. A distance is a number to the base 36
of variable length, the lowest digit first: a digit below a threshold is the last one. The
thresholds follow the size of the distances so far, which keeps texts of one script short.

## Main definitions

* `Url.Punycode.encode` — the ASCII form of a text
* `Url.Punycode.decode?` — the text of an ASCII form
-/

namespace PipelineConsole.Url.Punycode

/-! ### Digits -/

/-- The digit of a value below 36: a letter, then a numeral. -/
def digit (n : Nat) : Char := if n < 26 then .ofNat (0x61 + n) else .ofNat (0x30 + n - 26)

/-- The value of a digit. -/
def digitValue? (c : Char) : Option Nat :=
  if c.isLower then some (c.toNat - 0x61)
  else if c.isDigit then some (c.toNat - 0x30 + 26)
  else none

/-- The threshold of a digit at a place, which grows by 36 from digit to digit. -/
def threshold (place bias : Nat) : Nat := min 26 (max 1 (place - bias))

theorem one_le_threshold (place bias : Nat) : 1 ≤ threshold place bias := by
  unfold threshold; omega

/-- The bias after a distance that has been made small: how often it takes a factor of 35. -/
def biasOf (distance bias : Nat) : Nat :=
  if 455 < distance then biasOf (distance / 35) (bias + 36)
  else bias + 36 * distance / (distance + 38)
termination_by distance

/-- The bias after a distance. The first one is made smaller than the others, since it leads over
all of ASCII, and so is every one in a long text. -/
def adapted (distance length : Nat) (isFirst : Bool) : Nat :=
  let distance := if isFirst then distance / 700 else distance / 2
  biasOf (distance + distance / length) 0

/-! ### Encoding -/

/-- The digits of a number from a place on. -/
def digits (bias place n : Nat) : List Char :=
  let low := threshold place bias
  if n < low then [digit n]
  else digit (low + (n - low) % (36 - low)) :: digits bias (place + 36) ((n - low) / (36 - low))
termination_by n
decreasing_by
  have := one_le_threshold place bias
  exact Nat.lt_of_le_of_lt (Nat.div_le_self _ _) (by omega)

/-- What has been written of a text. -/
structure Encoder where
  written : List Char
  distance : Nat := 0
  bias : Nat := 72
  /-- How many characters of the text are written. -/
  length : Nat

namespace Encoder

/-- Passes a character of the text, and writes it if it has the code point whose turn it is. -/
def pass (basic code : Nat) (e : Encoder) (c : Char) : Encoder :=
  if c.toNat < code then { e with distance := e.distance + 1 }
  else if c.toNat = code then
    { written := e.written ++ digits e.bias 36 e.distance
      bias := adapted e.distance (e.length + 1) (e.length = basic)
      length := e.length + 1 }
  else e

/-- Writes all characters of the text with one of some code points, which are ascending. The first
one is counted from `start`. -/
def writeAll (cs : List Char) (basic : Nat) : (start : Nat) → List Nat → Encoder → Encoder
  | _, [], e => e
  | start, code :: codes, e =>
    let e := { e with distance := e.distance + (code - start) * (e.length + 1) }
    let e := cs.foldl (pass basic code) e
    writeAll cs basic (code + 1) codes { e with distance := e.distance + 1 }

end Encoder

/-- The ASCII form of a text. -/
def encode (cs : List Char) : List Char :=
  let (basic, others) := cs.partition (·.toNat < 0x80)
  let codes := ((others.map Char.toNat).mergeSort).eraseDups
  let start := if basic.isEmpty then [] else basic ++ ['-']
  (Encoder.writeAll cs basic.length 0x80 codes { written := start, length := basic.length }).written

/-! ### Decoding -/

/-- What has been read of an ASCII form. -/
structure Decoder where
  text : List Char
  /-- The code point of the last character that was put into the text. -/
  code : Nat := 0x80
  /-- The place behind that character. -/
  position : Nat := 0
  bias : Nat := 72
  /-- The sum of the digits of a distance so far. -/
  sum : Nat := 0
  /-- The weight of its next digit. -/
  weight : Nat := 1
  place : Nat := 36

namespace Decoder

/-- Numbers that do not fit into 32 bits are refused. -/
def limit : Nat := 0xFFFFFFFF

/-- Puts a character into the text once its distance is known. -/
def put? (d : Decoder) (distance : Nat) : Option Decoder :=
  let length := d.text.length + 1
  let total := d.position + distance
  let code := d.code + total / length
  if code.isValidChar then
    let position := total % length
    some {
      text := d.text.insertIdx position (.ofNat code)
      code
      position := position + 1
      bias := adapted distance length (d.position = 0) }
  else none

/-- Reads a digit. -/
def push? (d : Decoder) (c : Char) : Option Decoder := do
  let value ← digitValue? c
  let sum := d.sum + value * d.weight
  let low := threshold d.place d.bias
  if limit < d.position + sum then none
  else if value < low then d.put? sum
  else if limit < d.weight * (36 - low) then none
  else some { d with sum, weight := d.weight * (36 - low), place := d.place + 36 }

/-- Whether no distance has been begun. -/
def isComplete (d : Decoder) : Bool := d.place = 36

end Decoder

/-- The ASCII characters of the text and the digits, which stand behind the last hyphen. A hyphen at
the start does not count. -/
def parts (cs : List Char) : List Char × List Char :=
  let digits := (cs.reverse.takeWhile (· ≠ '-')).reverse
  let before := cs.take (cs.length - digits.length - 1)
  if before.isEmpty then ([], cs) else (before, digits)

/-- The text of an ASCII form. -/
def decode? (cs : List Char) : Option (List Char) :=
  let (basic, digits) := parts cs
  ((digits.foldlM Decoder.push? { text := basic }).filter Decoder.isComplete).map (·.text)

end PipelineConsole.Url.Punycode
